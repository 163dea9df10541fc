import TestReactor.Buffer.Refinement

namespace TestReactor

namespace Buffer

open Function (update)

namespace Memory

/-! Constructors, copies and moves. -/

section Construction

variable {memory : Memory T} {id other : Nat} {members source : Members}

theorem overwrite_newArray [Inhabited T] (data : List T) :
    Cells.overwrite (Buffer.newArray data.length) 0 data = data := by
  simp [Cells.overwrite, Buffer.newArray]

theorem becomes_empty (sound : memory.Sound) {body : Memory.Method T Unit}
    (ran : body.run memory =
      .ok () (memory.changed id (some ⟨0, 0, none, true⟩) (memory.vacated id))) :
    memory.Becomes body id ⟨0, 0, none, true⟩ := by
  obtain ⟨kept, view⟩ := @Sound.emptied T memory sound id (some ⟨0, 0, none, true⟩)
    (by rintro found ⟨⟩; exact ⟨rfl, rfl, rfl⟩)
  exact ⟨_, _, ran, kept, view⟩

theorem refines_ofMemory (sound : memory.Sound) (absent : memory.objects id = none)
    {data : List T} (small : data.length < 2 ^ 63) :
    memory.Refines (do put id (some (← Memory.ofMemory data)))
      (Objects.put id (Buffer.ofMemory data)) := by
  obtain ⟨kept, view⟩ := sound.renewed id ⟨data, false⟩ (Nat.le_refl _) small
  rw [vacated_of_absent absent] at kept view
  have becomes : memory.Becomes (do put id (some (← Memory.ofMemory data))) id
      (Buffer.ofMemory data) := ⟨_, _, rfl, kept, view⟩
  exact becomes.refines rfl

theorem ofBuffer_value (sound : memory.Sound) (there : memory.objects other = some source)
    (positive : source.used ≠ 0) :
    Buffer.ofBuffer (source.value memory.heap) =
      ⟨(source.value memory.heap).elements.length, (source.value memory.heap).elements.length,
        some (source.value memory.heap).elements, true⟩ := by
  have length : (source.value memory.heap).elements.length = source.used :=
    (sound.fits other source there).wellFormed.length_elements
  have positive : 0 < (source.value memory.heap).used := Nat.pos_of_ne_zero positive
  rw [length, Buffer.ofBuffer, if_pos positive]
  rfl

theorem ofBuffer_value_empty (none : source.used = 0) :
    Buffer.ofBuffer (source.value memory.heap) = ⟨0, 0, Option.none, true⟩ := by
  have none : (source.value memory.heap).used = 0 := none
  simp [Buffer.ofBuffer, none]

variable [Inhabited T]

theorem refines_ofLength (sound : memory.Sound) (absent : memory.objects id = none)
    (granted : Bool) (length : Nat) :
    memory.Refines (do put id (some (← Memory.ofLength granted length)))
      (Objects.put id (Buffer.ofLength length)) := by
  by_cases positive : length > 0
  case neg =>
    obtain rfl : length = 0 := by omega
    refine (becomes_empty sound ?_).refines rfl
    rw [vacated_of_absent absent]
    rfl
  by_cases grants : Grants granted length
  case neg =>
    apply refines_of_no_memory
    simp [Memory.ofLength, positive, run_newArray_refused grants]
  case pos =>
    have value : (Buffer.ofLength length : Buffer T) =
        ⟨length, length, some (Cells.overwrite (Buffer.newArray length) 0 []), true⟩ := by
      rw [Cells.overwrite_nil, Buffer.ofLength, if_pos positive]
    have ran : (do put id (some (← Memory.ofLength granted length)) :
        Memory.Method T Unit).run memory =
          .ok () (memory.changed id (some ⟨length, length, some memory.heap.next, true⟩)
            ((memory.vacated id).alloc
              ⟨Cells.overwrite (Buffer.newArray length) 0 [], true⟩)) := by
      rw [Cells.overwrite_nil, vacated_of_absent absent]
      simp only [Memory.ofLength, if_pos positive, EStateM.run_bind, run_newArray grants,
        EStateM.run_pure]
      rfl
    rw [value]
    exact (becomes_filled sound grants.2 (Nat.zero_le _) (Nat.le_refl _) ran).refines rfl

theorem becomes_copy (sound : memory.Sound) {body : Memory.Method T Unit} {data : List T}
    (small : data.length < 2 ^ 63)
    (ran : body.run memory =
      .ok () (memory.changed id (some ⟨data.length, data.length, some memory.heap.next, true⟩)
        ((memory.vacated id).alloc ⟨data, true⟩))) :
    memory.Becomes body id ⟨data.length, data.length, some data, true⟩ := by
  have filled := @becomes_filled T _ memory id sound body data.length data.length data small
    (Nat.le_refl _) (Nat.le_refl _)
  rw [overwrite_newArray] at filled
  exact filled ran

theorem run_store_copy {memory : Memory T} {address : Nat} {data : List T}
    (there : memory.heap.block address = some ⟨Buffer.newArray data.length, true⟩) :
    (store (some address) 0 data).run memory =
      .ok () ⟨memory.objects, memory.heap.write address ⟨data, true⟩⟩ := by
  rw [run_store_new there (Nat.le_refl _), overwrite_newArray]

theorem refines_ofCopy (sound : memory.Sound) (absent : memory.objects id = none)
    (granted : Bool) (data : List T) :
    memory.Refines (do put id (some (← Memory.ofCopy granted data)))
      (Objects.put id (Buffer.ofCopy data)) := by
  by_cases positive : data.length > 0
  case neg =>
    obtain rfl : data = [] := List.eq_nil_of_length_eq_zero (by omega)
    refine (becomes_empty sound ?_).refines rfl
    rw [vacated_of_absent absent]
    rfl
  by_cases grants : Grants granted data.length
  case neg =>
    apply refines_of_no_memory
    simp [Memory.ofCopy, positive, run_newArray_refused grants]
  case pos =>
    have value : Buffer.ofCopy data = ⟨data.length, data.length, some data, true⟩ := by
      rw [Buffer.ofCopy, if_pos positive]
    have stored := @run_store_copy T _
      ⟨memory.objects, memory.heap.alloc ⟨Buffer.newArray data.length, true⟩⟩ memory.heap.next data
      (memory.heap.block_alloc_self _)
    rw [value]
    refine (becomes_copy sound grants.2 ?_).refines rfl
    rw [vacated_of_absent absent]
    simp only [Memory.ofCopy, if_pos positive, EStateM.run_bind, run_newArray grants,
      EStateM.run_pure, stored, Heap.write_alloc]
    rfl

/-! `Buffer(const Buffer& other)`. -/

theorem run_ofBuffer_empty (granted : Bool) (none : source.used = 0) :
    (Memory.ofBuffer granted source).run memory = .ok ⟨0, 0, Option.none, true⟩ memory := by
  simp [Memory.ofBuffer, none]

theorem run_ofBuffer (sound : memory.Sound) (there : memory.objects other = some source)
    {granted : Bool} (positive : source.used ≠ 0) (grants : Grants granted source.used) :
    (Memory.ofBuffer granted source).run memory =
      .ok ⟨source.used, source.used, some memory.heap.next, true⟩
        ⟨memory.objects, memory.heap.alloc ⟨(source.value memory.heap).elements, true⟩⟩ := by
  have fits := sound.fits other source there
  have length : (source.value memory.heap).elements.length = source.used :=
    fits.wellFormed.length_elements
  have loaded := @run_load T ⟨memory.objects, memory.heap.alloc
    ⟨Buffer.newArray source.used, true⟩⟩ source (fits_alloc sound there _) source.used fits.used_le
  rw [value_alloc sound there] at loaded
  have stored := @run_store_copy T _ ⟨memory.objects, memory.heap.alloc
    ⟨Buffer.newArray source.used, true⟩⟩ memory.heap.next (source.value memory.heap).elements
    (by rw [length]; exact memory.heap.block_alloc_self _)
  rw [Memory.ofBuffer, if_pos positive]
  simp only [EStateM.run_bind, run_newArray grants, loaded, EStateM.run_pure]
  rw [show (source.value memory.heap).cells.take source.used =
    (source.value memory.heap).elements from rfl, stored]
  simp only [Heap.write_alloc]

theorem run_ofBuffer_refused {granted : Bool} (positive : source.used ≠ 0)
    (refused : ¬ Grants granted source.used) :
    (Memory.ofBuffer granted source).run memory = .error (.throw badAlloc) memory := by
  rw [Memory.ofBuffer, if_pos positive]
  simp only [EStateM.run_bind, run_newArray_refused refused]

theorem refines_ofBuffer (sound : memory.Sound) (absent : memory.objects id = none)
    (there : memory.objects other = some source) (granted : Bool) :
    memory.Refines (do put id (some (← Memory.ofBuffer granted (← object other))))
      (do Objects.put id (Buffer.ofBuffer (← Objects.object other))) := by
  have value : (do Objects.put id (Buffer.ofBuffer (← Objects.object other)) :
      Objects.Method T Unit).run memory.view = .ok () (update memory.view id
        (some (Buffer.ofBuffer (source.value memory.heap)))) := by
    simp [Objects.run_object (view_of_object there)]
  by_cases positive : source.used = 0
  case pos =>
    rw [ofBuffer_value_empty positive] at value
    refine (becomes_empty sound ?_).refines value
    rw [vacated_of_absent absent]
    simp [run_object there, run_ofBuffer_empty granted positive]
  by_cases grants : Grants granted source.used
  case neg =>
    apply refines_of_no_memory
    simp [run_object there, run_ofBuffer_refused positive grants]
  case pos =>
    have length : (source.value memory.heap).elements.length = source.used :=
      (sound.fits other source there).wellFormed.length_elements
    rw [ofBuffer_value sound there positive] at value
    refine (becomes_copy sound (by rw [length]; exact grants.2) ?_).refines value
    rw [vacated_of_absent absent, length]
    simp only [EStateM.run_bind, run_object there, run_ofBuffer sound there positive grants]
    rfl

end Construction

/-! Moves and exchanges. -/

section Moves

variable {memory : Memory T} {id other : Nat} {members source : Members}

theorem update_swap {α : Type} (objects : Nat → Option α) (id other : Nat) :
    update (update objects id (objects other)) other (objects id) =
      objects ∘ Equiv.swap id other := by
  rw [Equiv.comp_swap_eq_update]
  by_cases same : id = other
  · subst same
    simp
  · rw [Function.update_comm same]

theorem taken_over (sound : memory.Sound) (id other : Nat) :
    let next : Memory T := ⟨update (update memory.objects id (memory.objects other)) other
      (some Members.moved), memory.vacated id⟩
    next.Sound ∧ next.view = update (update memory.view id (memory.view other)) other
      (some (Buffer.moved T)) := by
  intro next
  obtain ⟨kept, view⟩ := @Sound.emptied T memory sound id (some Members.moved)
    (by rintro found ⟨⟩; exact ⟨rfl, rfl, rfl⟩)
  obtain ⟨sound', view'⟩ := kept.exchanged (Equiv.swap id other)
  have swapped {α : Type} (objects : Nat → Option α) (left : α) :
      update objects id (some left) ∘ Equiv.swap id other =
        update (update objects id (objects other)) other (some left) := by
    rw [← update_swap, Function.update_self, Function.update_idem]
    by_cases same : other = id
    · subst same
      simp
    · rw [Function.update_of_ne same]
  rw [changed, swapped] at sound' view'
  refine ⟨sound', view'.trans ?_⟩
  rw [← changed, view, Option.map_some, swapped]
  rfl

variable [Inhabited T] [Zero T]

/-- `operator=(const Buffer&)`: what the buffer had goes with the temporary. -/
theorem refines_copy (sound : memory.Sound) (here : memory.objects id = some members)
    (there : memory.objects other = some source) (granted : Bool) :
    memory.Refines (Command.run (.op granted (.copy id other))) (Op.run (.copy id other)) := by
  by_cases same : id = other
  case pos =>
    refine .inl ⟨memory, ?_, sound, ?_⟩
    · simp [Command.run, same]
    · simp [Op.run, same]
  have value : (Op.run (.copy id other)).run memory.view = .ok () (update memory.view id
      (some (Buffer.ofBuffer (source.value memory.heap)))) := by
    simp [Op.run, same, Objects.run_object (view_of_object here),
      Objects.run_object (view_of_object there)]
  have vacated : memory.vacated id =
      if members.ownMem then released memory.heap members.ptr else memory.heap := by
    rw [Memory.vacated, here]
  by_cases positive : source.used = 0
  case pos =>
    rw [ofBuffer_value_empty positive] at value
    refine (becomes_empty sound ?_).refines value
    have ends := @run_destroy T (memory.changed id (some ⟨0, 0, none, true⟩) memory.heap) members
      (sound.fits id members here)
    simp only [Command.run, ne_eq, same, not_false_eq_true, decide_true, Exec.run_when_true,
      EStateM.run_bind, run_object there, run_ofBuffer_empty granted positive, run_object here,
      run_put, ends, vacated]
    rfl
  by_cases grants : Grants granted source.used
  case neg =>
    apply refines_of_no_memory
    simp [Command.run, same, run_object there, run_ofBuffer_refused positive grants]
  case pos =>
    have length : (source.value memory.heap).elements.length = source.used :=
      (sound.fits other source there).wellFormed.length_elements
    rw [ofBuffer_value sound there positive] at value
    refine (becomes_copy sound (by rw [length]; exact grants.2) ?_).refines value
    have kept : (⟨memory.objects, memory.heap.alloc
        ⟨(source.value memory.heap).elements, true⟩⟩ : Memory T).objects id = some members := here
    have ends := fun objects => @run_destroy T ⟨objects, memory.heap.alloc
      ⟨(source.value memory.heap).elements, true⟩⟩ members (fits_alloc sound here _)
    simp only [Command.run, ne_eq, same, not_false_eq_true, decide_true, Exec.run_when_true,
      EStateM.run_bind, run_object there, run_ofBuffer sound there positive grants,
      run_object kept, run_put, changed, ends, released_alloc sound here, vacated, length]
    cases members.ownMem <;> rfl

theorem refines_swap (sound : memory.Sound) (here : memory.objects id = some members)
    (there : memory.objects other = some source) (granted : Bool) :
    memory.Refines (Command.run (.op granted (.swap id other))) (Op.run (.swap id other)) := by
  obtain ⟨kept, view⟩ := sound.exchanged (Equiv.swap id other)
  refine .inl ⟨_, ?_, kept, ?_⟩
  · rw [← update_swap, here, there]
    simp [Command.run, run_object here, run_object there, changed]
  · rw [view, ← update_swap, view_of_object here, view_of_object there]
    simp [Op.run, Objects.run_object (view_of_object here),
      Objects.run_object (view_of_object there)]

theorem refines_ofMoved (sound : memory.Sound) (absent : memory.objects id = none)
    (there : memory.objects other = some source) (granted : Bool) :
    memory.Refines (Command.run (.op granted (.ofMoved id other)))
      (Op.run (.ofMoved id other)) := by
  obtain ⟨kept, view⟩ := taken_over sound id other
  rw [vacated_of_absent absent, there] at kept view
  refine .inl ⟨_, ?_, kept, ?_⟩
  · simp [Command.run, run_object there, changed]
  · rw [view, view_of_object there]
    simp [Op.run, Op.takeOver, Objects.run_object (view_of_object there)]

theorem refines_move (sound : memory.Sound) (here : memory.objects id = some members)
    (there : memory.objects other = some source) (granted : Bool) :
    memory.Refines (Command.run (.op granted (.move id other))) (Op.run (.move id other)) := by
  obtain ⟨kept, view⟩ := taken_over sound id other
  refine .inl ⟨_, ?_, kept, ?_⟩
  · have there' : (⟨memory.objects, memory.vacated id⟩ : Memory T).objects other = some source :=
      there
    have gives : (Exec.when members.ownMem (deleteArray members.ptr)).run memory =
        .ok () ⟨memory.objects, memory.vacated id⟩ := by
      cases owned : members.ownMem with
      | false => rw [vacated_of_foreign here owned, Exec.run_when_false]
      | true =>
          rw [Exec.run_when_true, run_deleteArray (sound.fits id members here) owned,
            vacated_of_owned here owned]
    rw [there]
    simp [Command.run, run_object here, gives, run_object there', changed]
  · rw [view, view_of_object there]
    simp [Op.run, Op.takeOver, Objects.run_object (view_of_object there)]

theorem refines_destroy (sound : memory.Sound) (here : memory.objects id = some members) :
    memory.Refines (Command.run (.destroy id)) (Command.value (.destroy id)) := by
  obtain ⟨kept, view⟩ := @Sound.emptied T memory sound id none (by simp)
  have vacated : memory.vacated id =
      if members.ownMem then released memory.heap members.ptr else memory.heap := by
    rw [Memory.vacated, here]
  refine .inl ⟨_, ?_, kept, ?_⟩
  · simp only [Command.run, EStateM.run_bind, run_object here,
      run_destroy (sound.fits id members here), run_put, vacated]
    rfl
  · rw [view]
    rfl

end Moves

/-! `append(const Buffer&)`. -/

section Append

variable [Inhabited T] [Zero T] {memory : Memory T} {id other : Nat} {members source : Members}

theorem refines_appendBuffer (sound : memory.Sound) (here : memory.objects id = some members)
    (there : memory.objects other = some source) {granted : Bool}
    (readable : ∀ found heap,
      (Memory.resize granted id (members.used + source.used) true).run memory =
        .ok () (memory.changed id (some found) heap) →
      (memory.changed id (some found) heap).Sound →
      (memory.changed id (some found) heap).view = update memory.view id
        (some ((members.value memory.heap).resized (members.used + source.used) true)) →
      (Memory.load source.ptr source.used).run (memory.changed id (some found) heap) =
        .ok (source.value memory.heap).elements (memory.changed id (some found) heap)) :
    memory.Refines (Command.run (.op granted (.appendBuffer id other)))
      (Op.run (.appendBuffer id other)) := by
  have fits := sound.fits other source there
  have length : (source.value memory.heap).elements.length = source.used :=
    fits.wellFormed.length_elements
  have small := fits.small
  have used := fits.used_le
  have appends := refines_append sound here granted
    (show (source.value memory.heap).elements.length < 2 ^ 63 by omega)
    (by rw [length]; exact readable)
  rw [length] at appends
  have ran : (Command.run (.op granted (.appendBuffer id other))).run memory =
      (Memory.append granted id source.used (Memory.load source.ptr source.used)).run memory := by
    simp [Command.run, run_object there]
  have value : (Op.run (.appendBuffer id other)).run memory.view =
      (Objects.call id (Buffer.append (source.value memory.heap).elements)).run memory.view := by
    simp [Op.run, Objects.run_object (view_of_object there)]
  rw [Refines, ran, value]
  exact appends

theorem refines_appendBuffer_other (sound : memory.Sound)
    (here : memory.objects id = some members) (there : memory.objects other = some source)
    (apart : other ≠ id) (granted : Bool) :
    memory.Refines (Command.run (.op granted (.appendBuffer id other)))
      (Op.run (.appendBuffer id other)) := by
  apply refines_appendBuffer sound here there
  intro found heap _ kept view
  have stays : (memory.changed id (some found) heap).objects other = some source := by
    rw [objects_changed_of_ne apart, there]
  have fits := kept.fits other source stays
  have same := congrFun view other
  rw [view_of_object stays, Function.update_of_ne apart, view_of_object there] at same
  rw [run_load fits fits.used_le, Option.some.inj same]
  rfl

end Append

/-- No pointer dangles, no array has two buffers, and no array of `new[]` is lost. -/
structure Owned (memory : Memory T) : Prop where
  live : ∀ id members address, memory.objects id = some members → members.ptr = some address →
    ∃ block, memory.heap.block address = some block ∧
      block.cells.length = members.capacity ∧ block.dynamic = members.ownMem
  once : ∀ id other members others address, memory.objects id = some members →
    memory.objects other = some others → members.ptr = some address →
    others.ptr = some address → id = other
  kept : ∀ address block, memory.heap.block address = some block → block.dynamic = true →
    ∃ id members, memory.objects id = some members ∧ members.ownMem = true ∧
      members.ptr = some address

theorem Sound.owned {memory : Memory T} (sound : memory.Sound) : memory.Owned where
  live id members address here := (sound.fits id members here).there address
  once id other members others address here there points points' :=
    sound.held.once id other address (holds_of_ptr here points) (holds_of_ptr there points')
  kept address block present dynamic := by
    obtain ⟨id, holding⟩ := sound.held.kept address block present dynamic
    obtain ⟨members, here, points⟩ := Option.bind_eq_some_iff.mp holding
    obtain ⟨found, same, _, owned⟩ := (sound.fits id members here).there address points
    cases present.symm.trans same
    exact ⟨id, members, here, owned.symm.trans dynamic, points⟩

end Memory

namespace Command

open Memory

/-- A buffer that is appended to itself and has to grow: what is appended has been given back
by then. -/
def ReadsFreed (memory : Memory T) : Command T → Prop
  | .op granted (.appendBuffer id other) =>
      other = id ∧ granted = true ∧ ∃ members ∈ memory.objects id, members.ownMem = true ∧
        members.capacity < 2 * members.used ∧ 2 * members.used < 2 ^ 63
  | _ => False

section Commands

variable [Inhabited T] [Zero T] {memory : Memory T} {id : Nat} {members : Members}

theorem refines_appendBuffer_self (sound : memory.Sound) (here : memory.objects id = some members)
    {granted : Bool} (allowed : ¬ ReadsFreed memory (.op granted (.appendBuffer id id))) :
    memory.Refines (Command.run (.op granted (.appendBuffer id id)))
      (Op.run (.appendBuffer id id)) := by
  have fits := sound.fits id members here
  apply refines_appendBuffer sound here here
  intro found heap ran _ _
  by_cases none : members.used = 0
  · rw [none]
    have length := fits.wellFormed.length_elements
    rw [show (members.value memory.heap).used = 0 from none] at length
    rw [List.eq_nil_of_length_eq_zero length]
    simp [Memory.load]
  cases owned : members.ownMem with
  | false =>
      rw [Memory.run_resize_of_foreign here owned] at ran
      contradiction
  | true =>
      by_cases grows : members.used + members.used > members.capacity
      case pos =>
        by_cases grants : Grants granted (members.used + members.used)
        case neg =>
          rw [run_resize_refused here owned grows grants] at ran
          contradiction
        case pos =>
          obtain ⟨given, small⟩ := grants
          exact absurd ⟨rfl, given, members, here, owned, by omega, by omega⟩ allowed
      case neg =>
        rw [run_resize_within here owned granted (by omega) (Nat.le_of_not_gt grows)] at ran
        rw [← (EStateM.Result.ok.inj ran).2]
        exact @run_load T (memory.changed id _ memory.heap) members fits members.used fits.used_le

theorem faults_of_readsFreed (sound : memory.Sound) {command : Command T}
    (reads : command.ReadsFreed memory) : command.run.returns memory = none := by
  cases command with
  | destroy id => exact reads.elim
  | op granted operation =>
    cases operation with
    | appendBuffer id other =>
        obtain ⟨rfl, given, members, here, owned, grows, small⟩ := reads
        have fits := sound.fits other members here
        have used := fits.used_le
        have positive : 0 < members.used := by omega
        have grants : Grants granted (members.used + members.used) := ⟨given, by omega⟩
        have ran := run_resize_grown sound here owned (by omega) grants true
        cases points : members.ptr with
        | none =>
            have empty := fits.null points
            omega
        | some address =>
            generalize (⟨Cells.overwrite (Buffer.newArray (members.used + members.used)) 0
              (if true && (members.value memory.heap).ptr.isSome then
                (members.value memory.heap).elements else []), true⟩ : Block T) = block at ran
            have apart : address ≠ (memory.vacated other).next := by
              rw [next_vacated]
              exact sound.held.ne_next (holds_of_ptr here points)
            have gone : ((memory.vacated other).alloc block).block address = none := by
              rw [Heap.block_alloc_of_ne _ _ apart, vacated_of_owned here owned, points]
              exact memory.heap.block_release_self
            have freed := fun found => @run_load_freed T
              (memory.changed other found ((memory.vacated other).alloc block)) address members.used
              gone positive
            have sum : (members.used + members.used) % 2 ^ 64 = members.used + members.used :=
              Nat.mod_eq_of_lt (by omega)
            rw [Exec.returns]
            simp only [Command.run, EStateM.run_bind, run_object here, Memory.append,
              if_neg (Nat.ne_of_lt positive), sum, ran, points]
            rw [run_object (objects_changed_self ..)]
            simp only [freed]
    | _ => exact reads.elim

/-- Every command refines what it is on values, but for the one that reads freed memory. -/
theorem refines (sound : memory.Sound) {command : Command T} (admits : command.Admits memory)
    (allowed : ¬ command.ReadsFreed memory) : memory.Refines command.run command.value := by
  cases command with
  | destroy id =>
      obtain ⟨members, here⟩ := Option.isSome_iff_exists.mp admits
      exact refines_destroy sound here
  | op granted operation =>
    cases operation with
    | ofLength id length => exact refines_ofLength sound admits granted length
    | ofMemory id data => exact refines_ofMemory sound admits.1 admits.2
    | ofCopy id data => exact refines_ofCopy sound admits.1 granted data
    | ofBuffer id other =>
        obtain ⟨source, there⟩ := Option.isSome_iff_exists.mp admits.2
        exact refines_ofBuffer sound admits.1 there granted
    | ofMoved id other =>
        obtain ⟨source, there⟩ := Option.isSome_iff_exists.mp admits.2
        exact refines_ofMoved sound admits.1 there granted
    | copy id other =>
        obtain ⟨members, here⟩ := Option.isSome_iff_exists.mp admits.1
        obtain ⟨source, there⟩ := Option.isSome_iff_exists.mp admits.2
        exact refines_copy sound here there granted
    | move id other =>
        obtain ⟨members, here⟩ := Option.isSome_iff_exists.mp admits.1
        obtain ⟨source, there⟩ := Option.isSome_iff_exists.mp admits.2
        exact refines_move sound here there granted
    | swap id other =>
        obtain ⟨members, here⟩ := Option.isSome_iff_exists.mp admits.1
        obtain ⟨source, there⟩ := Option.isSome_iff_exists.mp admits.2
        exact refines_swap sound here there granted
    | resize id newCapacity preserveContent =>
        obtain ⟨members, here⟩ := Option.isSome_iff_exists.mp admits.1
        exact refines_resize sound here granted admits.2 preserveContent
    | setCapacity id newCapacity preserveContent =>
        obtain ⟨members, here⟩ := Option.isSome_iff_exists.mp admits
        exact refines_setCapacity sound here granted newCapacity preserveContent
    | assign id data =>
        obtain ⟨members, here⟩ := Option.isSome_iff_exists.mp admits.1
        exact refines_assign sound here granted data
    | append id data =>
        obtain ⟨members, here⟩ := Option.isSome_iff_exists.mp admits.1
        exact refines_append sound here granted admits.2 fun _ _ _ _ _ => rfl
    | appendValue id val =>
        obtain ⟨members, here⟩ := Option.isSome_iff_exists.mp admits
        have appends := @refines_append T memory id members _ sound here granted (pure [val]) [val]
          (show 1 < 2 ^ 63 by decide) fun _ _ _ _ _ => rfl
        rw [← appendValue_eq] at appends
        exact appends
    | appendBuffer id other =>
        obtain ⟨members, here⟩ := Option.isSome_iff_exists.mp admits.1
        obtain ⟨source, there⟩ := Option.isSome_iff_exists.mp admits.2
        by_cases same : other = id
        · subst same
          exact refines_appendBuffer_self sound here allowed
        · exact refines_appendBuffer_other sound here there same granted
    | clear id =>
        obtain ⟨members, here⟩ := Option.isSome_iff_exists.mp admits
        exact refines_clear sound here

def completed (memory : Memory T) (command : Command T) : List (Command T) :=
  match command.run.returns memory with
  | some (.ok _, _) => [command]
  | _ => []

def onValues (objects : Objects T) (command : Command T) : Option (Objects T) :=
  match command.value.run objects with
  | .ok _ next => some next
  | .error _ _ => none

/-- A command that is gone through: it returns, and was carried out on values, or it throws and
changes nothing. -/
theorem onValues_of_step (sound : memory.Sound) {command : Command T} {next : Memory T}
    (stepped : step memory command = some next) :
    next.Sound ∧
      Runs.exec onValues memory.view (completed memory command) = some next.view := by
  unfold step at stepped
  split at stepped
  case isFalse => contradiction
  case isTrue admits =>
    by_cases reads : command.ReadsFreed memory
    · rw [faults_of_readsFreed sound reads] at stepped
      contradiction
    · obtain ⟨last, ran, kept, value⟩ | ⟨what, threw, _⟩ := refines sound admits reads
      · rw [Exec.returns, ran] at stepped
        cases stepped
        refine ⟨kept, ?_⟩
        rw [completed, Exec.returns, ran]
        simp only [Runs.exec_cons, Runs.exec_nil, onValues, value, Option.bind_some]
      · rw [Exec.returns, threw] at stepped
        cases stepped
        refine ⟨sound, ?_⟩
        rw [completed, Exec.returns, threw]
        rfl

theorem sound_of_reached {commands : List (Command T)}
    (reached : Runs.exec step Memory.empty commands = some memory) : memory.Sound :=
  Runs.exec_keeps Sound (fun _ _ _ sound stepped => (onValues_of_step sound stepped).1)
    sound_empty reached

/-- Whatever a program has done with its buffers, and whatever memory it was refused, no array
is lost, shared or given back twice; and the one call that touches freed memory is that of
`append` on a buffer that is its own argument and has to grow. -/
theorem arrays_have_owners {commands : List (Command T)}
    (reached : Runs.exec step Memory.empty commands = some memory) :
    memory.Owned ∧ ∀ command : Command T, command.Admits memory →
      (command.run.returns memory = none ↔ command.ReadsFreed memory) := by
  have sound := sound_of_reached reached
  refine ⟨sound.owned, fun command admits => ⟨fun stuck => ?_, faults_of_readsFreed sound⟩⟩
  apply Classical.byContradiction
  intro allowed
  obtain ⟨next, ran, _⟩ | ⟨what, threw, _⟩ := refines sound admits allowed
  · rw [Exec.returns, ran] at stuck
    contradiction
  · rw [Exec.returns, threw] at stuck
    contradiction

theorem exec_onValues {commands : List (Command T)} {last : Memory T} (sound : memory.Sound)
    (reached : Runs.exec step memory commands = some last) :
    Runs.exec onValues memory.view (Runs.collect step completed memory commands) =
      some last.view := by
  have every : Runs.Each step (fun _ _ => True) memory commands :=
    Runs.each_of_forall (fun _ _ => trivial) memory commands
  let view (memory : Memory T) (_ : memory.Sound) : Objects T := memory.view
  obtain ⟨_, carried⟩ := every.simulated view completed
    (fun memory command next sound stepped _ => by
      obtain ⟨kept, value⟩ := onValues_of_step sound stepped
      exact ⟨kept, value⟩)
    sound reached
  exact carried

/-- The pointers carry out on values the commands whose calls return, and no others: a call that
throws changes nothing. -/
theorem pointers_refine_values {commands : List (Command T)}
    (reached : Runs.exec step Memory.empty commands = some memory) :
    Runs.exec onValues (fun _ => none) (Runs.collect step completed Memory.empty commands) =
        some memory.view ∧
    ∀ command : Command T, command.Admits memory → ∀ what next,
      command.run.returns memory = some (.error what, next) → next = memory := by
  have sound := sound_of_reached reached
  refine ⟨exec_onValues sound_empty reached, ?_⟩
  intro command admits what next threw
  by_cases reads : command.ReadsFreed memory
  · rw [faults_of_readsFreed sound reads] at threw
    contradiction
  · obtain ⟨last, ran, _⟩ | ⟨what', ran, _⟩ := refines sound admits reads
    · rw [Exec.returns, ran] at threw
      cases threw
    · rw [Exec.returns, ran] at threw
      cases threw
      rfl

end Commands

/-- Three elements are copied; one more is refused once, then appended; the copy is moved from
and goes.  What is left can be appended to itself as it stands, which reads freed memory. -/
theorem arrays_have_owners_of_three :
    ∃ memory : Memory Nat, Runs.exec step Memory.empty
        [.op true (.ofCopy 0 [1, 2, 3]), .op true (.ofBuffer 1 0), .op false (.append 1 [4]),
          .op true (.append 1 [4]), .op true (.move 0 1), .destroy 1] = some memory ∧
      memory.Owned ∧
      ((.op true (.appendBuffer 0 0) : Command Nat).run.returns memory = none) := by
  have reached : Runs.exec step Memory.empty
      ([.op true (.ofCopy 0 [1, 2, 3]), .op true (.ofBuffer 1 0), .op false (.append 1 [4]),
        .op true (.append 1 [4]), .op true (.move 0 1), .destroy 1] : List (Command Nat)) =
      some _ := rfl
  obtain ⟨owned, faults⟩ := arrays_have_owners reached
  refine ⟨_, reached, owned, (faults (.op true (.appendBuffer 0 0)) ?_).mpr ?_⟩
  · exact ⟨rfl, rfl⟩
  · exact ⟨rfl, rfl, _, rfl, rfl, by decide, by decide⟩

theorem pointers_refine_values_of_three :
    ∃ memory : Memory Nat, Runs.exec step Memory.empty
        [.op true (.ofCopy 0 [1, 2, 3]), .op true (.ofBuffer 1 0), .op false (.append 1 [4]),
          .op true (.append 1 [4]), .op true (.move 0 1), .destroy 1] = some memory ∧
      Runs.exec onValues (fun _ => none)
        [.op true (.ofCopy 0 [1, 2, 3]), .op true (.ofBuffer 1 0), .op true (.append 1 [4]),
          .op true (.move 0 1), .destroy 1] = some memory.view ∧
      ((memory.view 0).map Buffer.elements) = some [1, 2, 3, 4] := by
  have reached : Runs.exec step Memory.empty
      ([.op true (.ofCopy 0 [1, 2, 3]), .op true (.ofBuffer 1 0), .op false (.append 1 [4]),
        .op true (.append 1 [4]), .op true (.move 0 1), .destroy 1] : List (Command Nat)) =
      some _ := rfl
  exact ⟨_, reached, (pointers_refine_values reached).1, by decide⟩

end Command

end Buffer

end TestReactor
