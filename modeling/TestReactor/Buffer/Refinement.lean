import TestReactor.Buffer.ListSemantics
import TestReactor.Buffer.Ownership

namespace TestReactor

namespace Buffer

open Function (update)

namespace Memory

/-! What the parts of an operation do in a sound memory. -/

section Parts

variable {memory : Memory T} {id other : Nat} {members : Members}

theorem run_object (here : memory.objects id = some members) :
    (object id).run memory = .ok members memory := by
  simp [object, here]

@[simp] theorem run_put (memory : Memory T) (id : Nat) (members : Option Members) :
    (put id members).run memory = .ok () (memory.changed id members memory.heap) := rfl

@[simp] theorem heap_changed (memory : Memory T) (id : Nat) (members : Option Members)
    (heap : Heap (Block T)) : (memory.changed id members heap).heap = heap := rfl

theorem run_array {address : Nat} {block : Block T}
    (there : memory.heap.block address = some block) :
    (array (some address)).run memory = .ok (address, block) memory := by
  simp [array, there]

theorem run_store {address start : Nat} {block : Block T} {data : List T}
    (there : memory.heap.block address = some block)
    (inside : start + data.length ≤ block.cells.length) :
    (store (some address) start data).run memory =
      .ok () ⟨memory.objects, memory.heap.write address
        { block with cells := Cells.overwrite block.cells start data }⟩ := by
  by_cases empty : data = []
  · have same : memory.heap.write address block = memory.heap := by
      rw [Heap.write, ← there, Function.update_eq_self]
    rw [empty, Cells.overwrite_nil, same]
    simp [store]
  · simp [store, empty, run_array there, inside]

theorem run_load (fits : members.Fits memory.heap) {count : Nat}
    (within : count ≤ members.capacity) :
    (load members.ptr count).run memory =
      .ok ((members.value memory.heap).cells.take count) memory := by
  by_cases none : count = 0
  · simp [load, none]
  · cases points : members.ptr with
    | none =>
        have empty := fits.null points
        omega
    | some address =>
        obtain ⟨block, there, length, _⟩ := fits.there address points
        rw [Members.cells_value points there]
        simp [load, none, run_array there, show count ≤ block.cells.length by omega]

theorem run_load_freed {address count : Nat} (gone : memory.heap.block address = none)
    (positive : 0 < count) :
    (load (some address) count).run memory = .error .fault memory := by
  simp [load, Nat.ne_of_gt positive, array, gone]

theorem run_deleteArray (fits : members.Fits memory.heap) (owned : members.ownMem = true) :
    (deleteArray members.ptr).run memory =
      .ok () ⟨memory.objects, released memory.heap members.ptr⟩ := by
  cases points : members.ptr with
  | none => rfl
  | some address =>
      obtain ⟨block, there, _, dynamic⟩ := fits.there address points
      simp [deleteArray, there, dynamic, owned, released]

theorem run_destroy (fits : members.Fits memory.heap) :
    (Memory.destroy members).run memory =
      .ok () ⟨memory.objects,
        if members.ownMem then released memory.heap members.ptr else memory.heap⟩ := by
  cases owned : members.ownMem with
  | false => simp [Memory.destroy, owned]
  | true =>
      cases points : members.ptr with
      | none => simp [Memory.destroy, points, released]
      | some address =>
          have ran := run_deleteArray fits owned
          rw [points] at ran
          simp [Memory.destroy, owned, points, ran]

variable [Inhabited T]

def Grants (granted : Bool) (length : Nat) : Prop := granted = true ∧ length < 2 ^ 63

theorem run_newArray {granted : Bool} {length : Nat} (grants : Grants granted length) :
    (newArray granted length).run memory = .ok (some memory.heap.next)
      ⟨memory.objects, memory.heap.alloc ⟨Buffer.newArray length, true⟩⟩ := by
  rw [Grants] at grants
  simp only [newArray, if_pos grants]
  rfl

theorem run_newArray_refused {granted : Bool} {length : Nat}
    (refused : ¬ Grants granted length) :
    (newArray granted length).run memory = .error (.throw badAlloc) memory := by
  rw [Grants] at refused
  simp only [newArray, if_neg refused, Exec.run_raise]

theorem run_store_new {address : Nat} {data : List T} {length : Nat} {memory : Memory T}
    (there : memory.heap.block address = some ⟨Buffer.newArray length, true⟩)
    (fits : data.length ≤ length) :
    (store (some address) 0 data).run memory =
      .ok () ⟨memory.objects, memory.heap.write address
        ⟨Cells.overwrite (Buffer.newArray length) 0 data, true⟩⟩ :=
  run_store there (by simpa [Buffer.newArray] using fits)

end Parts

/-- The call makes `buffer` of the buffer `id`, and touches no other. -/
def Becomes (memory : Memory T) (body : Memory.Method T Unit) (id : Nat)
    (buffer : Buffer T) : Prop :=
  ∃ members heap, body.run memory = .ok () (memory.changed id (some members) heap) ∧
    (memory.changed id (some members) heap).Sound ∧
    (memory.changed id (some members) heap).view = update memory.view id (some buffer)

section Calls

variable {memory : Memory T} {id : Nat} {members : Members}

theorem value_of_view {members : Members} {heap : Heap (Block T)} {buffer : Buffer T}
    (view : (memory.changed id (some members) heap).view = update memory.view id (some buffer)) :
    members.value heap = buffer := by
  have same := congrFun view id
  rw [view_of_object (objects_changed_self ..), Function.update_self] at same
  exact Option.some.inj same

theorem Becomes.bind {first : Memory.Method T Unit} {second : Memory.Method T Unit}
    {middle last : Buffer T} (becomes : memory.Becomes first id middle)
    (follows : ∀ next : Memory T, ∀ members, next.Sound → next.objects id = some members →
      members.value next.heap = middle → next.Becomes second id last) :
    memory.Becomes (first >>= fun _ => second) id last := by
  obtain ⟨members, heap, ran, sound, view⟩ := becomes
  obtain ⟨members', heap', ran', sound', view'⟩ :=
    follows _ members sound (objects_changed_self ..) (value_of_view view)
  rw [changed_changed] at ran' sound' view'
  refine ⟨members', heap', ?_, sound', ?_⟩
  · rw [EStateM.run_bind, ran]
    exact ran'
  · rw [view', view, Function.update_idem]

theorem becomes_store (sound : memory.Sound) (here : memory.objects id = some members)
    {start : Nat} {data : List T} (inside : start + data.length ≤ members.capacity) :
    memory.Becomes (store members.ptr start data) id
      ((members.value memory.heap).stored start data) := by
  by_cases empty : data = []
  · refine ⟨members, memory.heap, ?_, ?_, ?_⟩
    · rw [changed_self here, empty]
      simp [store]
    · rw [changed_self here]
      exact sound
    · rw [changed_self here, stored, if_pos empty, ← view_of_object here,
        Function.update_eq_self]
  · have long := List.length_pos_iff.mpr empty
    have fits := sound.fits id members here
    cases points : members.ptr with
    | none =>
        have none := fits.null points
        omega
    | some address =>
        obtain ⟨block, there, length, _⟩ := fits.there address points
        have room : start + data.length ≤ block.cells.length := by omega
        obtain ⟨kept, view⟩ := sound.written here points there
          (Cells.length_overwrite room) fits.used_le
        refine ⟨_, _, ?_, kept, ?_⟩
        · rw [run_store there room, changed, ← here, Function.update_eq_self]
        · rw [view, stored, if_neg empty, Members.cells_value points there]
          rfl

theorem becomes_counted (sound : memory.Sound) (here : memory.objects id = some members)
    {used : Nat} (within : used ≤ members.capacity) :
    memory.Becomes (put id (some { members with used := used })) id
      { members.value memory.heap with used := used } := by
  obtain ⟨kept, view⟩ := sound.counted here within
  exact ⟨_, _, rfl, kept, view⟩

theorem released_alloc (sound : memory.Sound) (here : memory.objects id = some members)
    (block : Block T) :
    released (memory.heap.alloc block) members.ptr =
      (released memory.heap members.ptr).alloc block := by
  cases points : members.ptr with
  | none => rfl
  | some address => exact Heap.release_alloc _ _ (sound.held.ne_next (holds_of_ptr here points))

theorem fits_alloc (sound : memory.Sound) (here : memory.objects id = some members)
    (block : Block T) : members.Fits (memory.heap.alloc block) :=
  (sound.fits id members here).congr fun _ points =>
    Heap.block_alloc_of_ne _ _ (sound.held.ne_next (holds_of_ptr here points))

theorem value_alloc (sound : memory.Sound) (here : memory.objects id = some members)
    (block : Block T) : members.value (memory.heap.alloc block) = members.value memory.heap :=
  Members.value_congr fun _ points =>
    Heap.block_alloc_of_ne _ _ (sound.held.ne_next (holds_of_ptr here points))

/-- The old array is given back when the new one is there. -/
theorem run_delete_old (sound : memory.Sound) (here : memory.objects id = some members)
    (owned : members.ownMem = true) (block : Block T) :
    (deleteArray members.ptr).run ⟨memory.objects, memory.heap.alloc block⟩ =
      .ok () ⟨memory.objects, (memory.vacated id).alloc block⟩ := by
  rw [@run_deleteArray T ⟨memory.objects, memory.heap.alloc block⟩ members
    (fits_alloc sound here block) owned, vacated_of_owned here owned,
    released_alloc sound here block]

end Calls

section Resize

variable [Inhabited T] {memory : Memory T} {id : Nat} {members : Members}

theorem run_resize_of_foreign (here : memory.objects id = some members)
    (foreign : members.ownMem = false) (granted : Bool) (newCapacity : Nat)
    (preserveContent : Bool) :
    (resize granted id newCapacity preserveContent).run memory =
      .error (.throw "Cannot resize buffer which does not own its storage.") memory := by
  simp [resize, run_object here, foreign]

theorem run_kept (sound : memory.Sound) (here : memory.objects id = some members)
    {length count : Nat} (within : count ≤ members.capacity) (fits : count ≤ length)
    (preserve : Bool) :
    (Exec.when (preserve && members.ptr.isSome) (do
        store (some memory.heap.next) 0 (← load members.ptr count)) : Memory.Method T Unit).run
        ⟨memory.objects, memory.heap.alloc ⟨Buffer.newArray length, true⟩⟩ =
      .ok () ⟨memory.objects, memory.heap.alloc ⟨Cells.overwrite (Buffer.newArray length) 0
        (if preserve && (members.value memory.heap).ptr.isSome then
          (members.value memory.heap).cells.take count else []), true⟩⟩ := by
  have pointer : (members.value memory.heap).ptr.isSome = members.ptr.isSome := by
    simp [Members.value]
  rw [pointer]
  cases copies : preserve && members.ptr.isSome with
  | false => rw [if_neg Bool.false_ne_true, Cells.overwrite_nil, Exec.run_when_false]
  | true =>
      have loaded := @run_load T
        ⟨memory.objects, memory.heap.alloc ⟨Buffer.newArray length, true⟩⟩ members
        (fits_alloc sound here _) count within
      have stored := @run_store_new T _ memory.heap.next
        ((members.value memory.heap).cells.take count) length
        ⟨memory.objects, memory.heap.alloc ⟨Buffer.newArray length, true⟩⟩
        (memory.heap.block_alloc_self _)
        (Nat.le_trans (List.length_take_le _ _) fits)
      rw [value_alloc sound here] at loaded
      rw [Exec.run_when_true, EStateM.run_bind, loaded, if_pos rfl]
      simp only [stored, Heap.write_alloc]

theorem run_resize_grown (sound : memory.Sound) (here : memory.objects id = some members)
    (owned : members.ownMem = true) {granted : Bool} {newCapacity : Nat}
    (grows : newCapacity > members.capacity) (grants : Grants granted newCapacity)
    (preserveContent : Bool) :
    (resize granted id newCapacity preserveContent).run memory =
      .ok () (memory.changed id (some ⟨newCapacity, newCapacity, some memory.heap.next, true⟩)
        ((memory.vacated id).alloc ⟨Cells.overwrite (Buffer.newArray newCapacity) 0
          (if preserveContent && (members.value memory.heap).ptr.isSome then
            (members.value memory.heap).elements else []), true⟩)) := by
  have used := (sound.fits id members here).used_le
  have positive : 0 < newCapacity := by omega
  have kept := run_kept sound here used (show members.used ≤ newCapacity by omega)
    preserveContent
  rw [resize, EStateM.run_bind, run_object here]
  simp only [owned, positive, grows, Bool.not_true, Bool.false_eq_true, if_false, decide_true,
    EStateM.run_bind, Exec.run_assert_true, if_true, run_newArray grants, kept,
    run_delete_old sound here owned]
  rfl

theorem run_resize_within (here : memory.objects id = some members)
    (owned : members.ownMem = true) (granted : Bool) {newCapacity : Nat}
    (positive : 0 < newCapacity) (within : newCapacity ≤ members.capacity)
    (preserveContent : Bool) :
    (resize granted id newCapacity preserveContent).run memory =
      .ok () (memory.changed id (some { members with used := newCapacity }) memory.heap) := by
  rw [resize, EStateM.run_bind, run_object here]
  simp [owned, positive, Nat.not_lt.mpr within]

theorem run_resize_refused (here : memory.objects id = some members)
    (owned : members.ownMem = true) {granted : Bool} {newCapacity : Nat}
    (grows : newCapacity > members.capacity) (refused : ¬ Grants granted newCapacity)
    (preserveContent : Bool) :
    (resize granted id newCapacity preserveContent).run memory =
      .error (.throw badAlloc) memory := by
  have positive : 0 < newCapacity := by omega
  rw [resize, EStateM.run_bind, run_object here]
  simp [owned, positive, grows, run_newArray_refused refused]

theorem becomes_filled (sound : memory.Sound) {body : Memory.Method T Unit} {length used : Nat}
    {kept : List T} (small : length < 2 ^ 63) (short : kept.length ≤ length)
    (within : used ≤ length)
    (ran : body.run memory =
      .ok () (memory.changed id (some ⟨length, used, some memory.heap.next, true⟩)
        ((memory.vacated id).alloc ⟨Cells.overwrite (Buffer.newArray length) 0 kept, true⟩))) :
    memory.Becomes body id
      ⟨length, used, some (Cells.overwrite (Buffer.newArray length) 0 kept), true⟩ := by
  have filled : (Cells.overwrite (Buffer.newArray length) 0 kept).length = length := by
    rw [Cells.length_overwrite (by simpa [Buffer.newArray] using short), Buffer.newArray,
      List.length_replicate]
  have renewed := @Sound.renewed T memory sound id
    ⟨Cells.overwrite (Buffer.newArray length) 0 kept, true⟩ used (by rw [filled]; exact within)
    (by rw [filled]; exact small)
  simp only [filled] at renewed
  exact ⟨_, _, ran, renewed.1, renewed.2⟩

theorem reallocated_eq {buffer : Buffer T} (owned : buffer.ownMem = true) (length used : Nat)
    (kept : List T) : buffer.reallocated length used kept =
      ⟨length, used, some (Cells.overwrite (Buffer.newArray length) 0 kept), true⟩ :=
  congrArg (fun own => (⟨_, _, _, own⟩ : Buffer T)) owned

/-- `resize` on a buffer that owns its storage: what it does on values, or no memory. -/
theorem resize_becomes (sound : memory.Sound) (here : memory.objects id = some members)
    (owned : members.ownMem = true) (granted : Bool) {newCapacity : Nat}
    (positive : 0 < newCapacity) (preserveContent : Bool) :
    memory.Becomes (resize granted id newCapacity preserveContent) id
        ((members.value memory.heap).resized newCapacity preserveContent) ∨
      (resize granted id newCapacity preserveContent).run memory =
        .error (.throw badAlloc) memory := by
  have fits := sound.fits id members here
  have wellFormed := fits.wellFormed
  by_cases grows : newCapacity > members.capacity
  case neg =>
    left
    have resized : (members.value memory.heap).resized newCapacity preserveContent =
        { members.value memory.heap with used := newCapacity } := if_neg grows
    have within := Nat.le_of_not_gt grows
    obtain ⟨kept, view⟩ := sound.counted here within
    rw [resized]
    exact ⟨_, _, run_resize_within here owned granted positive within preserveContent, kept, view⟩
  by_cases grants : Grants granted newCapacity
  case pos =>
    left
    generalize content : (if preserveContent && (members.value memory.heap).ptr.isSome then
      (members.value memory.heap).elements else []) = kept
    have short : kept.length ≤ newCapacity := by
      have elements := wellFormed.length_elements
      have used : (members.value memory.heap).used = members.used := rfl
      have within := fits.used_le
      rw [← content]
      split
      · omega
      · exact Nat.zero_le _
    have resized : (members.value memory.heap).resized newCapacity preserveContent =
        (members.value memory.heap).reallocated newCapacity newCapacity kept := by
      rw [Buffer.resized, if_pos (show newCapacity > (members.value memory.heap).capacity from
        grows), content]
      rfl
    have ran := run_resize_grown sound here owned grows grants preserveContent
    rw [content] at ran
    rw [resized, reallocated_eq owned]
    exact becomes_filled sound grants.2 short (Nat.le_refl _) ran
  case neg =>
    right
    exact run_resize_refused here owned grows grants preserveContent

theorem run_setCapacity_emptied (sound : memory.Sound) (here : memory.objects id = some members)
    (owned : members.ownMem = true) (other : 0 ≠ members.capacity) (granted : Bool)
    (preserveContent : Bool) :
    (setCapacity granted id 0 preserveContent).run memory =
      .ok () (memory.changed id (some ⟨0, 0, none, true⟩) (memory.vacated id)) := by
  have none : (if 0 < members.used then 0 else members.used) = 0 := by
    split <;> omega
  rw [setCapacity, EStateM.run_bind, run_object here]
  simp only [owned, other, ne_eq, not_false_eq_true, Bool.not_true, Bool.false_eq_true, if_false,
    if_true, EStateM.run_bind, EStateM.run_pure, gt_iff_lt, Nat.lt_irrefl, none,
    run_deleteArray (sound.fits id members here) owned, vacated_of_owned here owned]
  rfl

theorem run_setCapacity_renewed (sound : memory.Sound) (here : memory.objects id = some members)
    (owned : members.ownMem = true) {granted : Bool} {newCapacity : Nat}
    (other : newCapacity ≠ members.capacity) (positive : newCapacity > 0)
    (grants : Grants granted newCapacity) (preserveContent : Bool) :
    (setCapacity granted id newCapacity preserveContent).run memory =
      .ok () (memory.changed id
        (some ⟨newCapacity, min members.used newCapacity, some memory.heap.next, true⟩)
        ((memory.vacated id).alloc ⟨Cells.overwrite (Buffer.newArray newCapacity) 0
          (if preserveContent && (members.value memory.heap).ptr.isSome then
            (members.value memory.heap).elements.take newCapacity else []), true⟩)) := by
  have used := (sound.fits id members here).used_le
  have newSz : (if members.used < newCapacity then members.used else newCapacity) =
      min members.used newCapacity := by
    split <;> omega
  have shrunk : (if newCapacity < members.used then newCapacity else members.used) =
      min members.used newCapacity := by
    split <;> omega
  have kept := run_kept sound here (show min members.used newCapacity ≤ members.capacity by omega)
    (Nat.min_le_right _ newCapacity) preserveContent
  have front : (members.value memory.heap).elements.take newCapacity =
      (members.value memory.heap).cells.take (min members.used newCapacity) := by
    rw [elements, List.take_take, Nat.min_comm]
    rfl
  rw [setCapacity, EStateM.run_bind, run_object here, front]
  simp only [owned, other, positive, ne_eq, not_false_eq_true, Bool.not_true, Bool.false_eq_true,
    if_false, if_true, EStateM.run_bind, EStateM.run_pure, run_newArray grants, newSz, shrunk,
    kept, run_delete_old sound here owned]
  rfl

theorem setCapacity_becomes (sound : memory.Sound) (here : memory.objects id = some members)
    (owned : members.ownMem = true) (granted : Bool) (newCapacity : Nat)
    (preserveContent : Bool) :
    (∃ buffer, memory.Becomes (setCapacity granted id newCapacity preserveContent) id buffer ∧
      (Buffer.setCapacity newCapacity preserveContent).run (members.value memory.heap) =
        .ok () buffer) ∨
      (setCapacity granted id newCapacity preserveContent).run memory =
        .error (.throw badAlloc) memory := by
  have fits := sound.fits id members here
  have wellFormed := fits.wellFormed
  have used := fits.used_le
  have owned' : (members.value memory.heap).ownMem = true := owned
  by_cases same : newCapacity = members.capacity
  case pos =>
    left
    refine ⟨members.value memory.heap, ⟨members, memory.heap, ?_, ?_, ?_⟩, ?_⟩
    · rw [changed_self here, setCapacity, EStateM.run_bind, run_object here]
      simp [owned, same]
    · rw [changed_self here]
      exact sound
    · rw [changed_self here, ← view_of_object here, Function.update_eq_self]
    · have equal : newCapacity = (members.value memory.heap).capacity := same
      simp [Buffer.setCapacity, owned', ← equal]
  by_cases positive : newCapacity > 0
  case neg =>
    left
    obtain rfl : newCapacity = 0 := by omega
    obtain ⟨kept, view⟩ := @Sound.emptied T memory sound id (some ⟨0, 0, none, true⟩)
      (by rintro found ⟨⟩; exact ⟨rfl, rfl, rfl⟩)
    refine ⟨_, ⟨_, _, ?_, kept, ?_⟩, run_setCapacity_to_zero preserveContent owned' same⟩
    · exact run_setCapacity_emptied sound here owned same granted preserveContent
    · rw [view, owned']
      rfl
  by_cases grants : Grants granted newCapacity
  case pos =>
    left
    refine ⟨_, ?_, run_setCapacity_anew preserveContent wellFormed owned' same positive⟩
    rw [reallocated_eq owned']
    apply becomes_filled sound grants.2 _ (Nat.min_le_right _ _)
    · exact run_setCapacity_renewed sound here owned same positive grants preserveContent
    · split
      · exact List.length_take_le _ _
      · exact Nat.zero_le _
  case neg =>
    right
    rw [setCapacity, EStateM.run_bind, run_object here]
    simp [owned, positive, same, run_newArray_refused grants]

end Resize

/-- At the pointers a call does what `value` does, or it throws and changes nothing; and it
throws what `value` throws, or finds no memory. -/
def Refines (memory : Memory T) (body : Memory.Method T Unit) (value : Objects.Method T Unit) :
    Prop :=
  (∃ next, body.run memory = .ok () next ∧ next.Sound ∧
    value.run memory.view = .ok () next.view) ∨
  ∃ what, body.run memory = .error (.throw what) memory ∧
    (what = badAlloc ∨ value.run memory.view = .error (.throw what) memory.view)

section Refines

variable {memory : Memory T} {id : Nat} {members : Members} {body : Memory.Method T Unit}

theorem Becomes.congr {other : Memory.Method T Unit} {buffer : Buffer T}
    (becomes : memory.Becomes other id buffer) (same : body.run memory = other.run memory) :
    memory.Becomes body id buffer := by
  unfold Becomes
  rw [same]
  exact becomes

theorem Becomes.refines {value : Objects.Method T Unit} {buffer : Buffer T}
    (becomes : memory.Becomes body id buffer)
    (ran : value.run memory.view = .ok () (update memory.view id (some buffer))) :
    memory.Refines body value := by
  obtain ⟨members, heap, came, sound, view⟩ := becomes
  refine .inl ⟨_, came, sound, ?_⟩
  rw [ran, view]

theorem run_call_ok (here : memory.objects id = some members) {call : Buffer.Method T Unit}
    {buffer : Buffer T} (ran : call.run (members.value memory.heap) = .ok () buffer) :
    (Objects.call id call).run memory.view = .ok () (update memory.view id (some buffer)) := by
  simp [Objects.call, Objects.run_object (view_of_object here), ran]

theorem Becomes.refines_call (becomes : memory.Becomes body id buffer)
    (here : memory.objects id = some members) {call : Buffer.Method T Unit}
    (ran : call.run (members.value memory.heap) = .ok () buffer) :
    memory.Refines body (Objects.call id call) :=
  becomes.refines (run_call_ok here ran)

theorem refines_of_throw (here : memory.objects id = some members)
    {call : Buffer.Method T Unit} {what : String}
    (threw : body.run memory = .error (.throw what) memory)
    (throws : call.run (members.value memory.heap) =
      .error (.throw what) (members.value memory.heap)) :
    memory.Refines body (Objects.call id call) := by
  refine .inr ⟨what, threw, .inr ?_⟩
  have same : update memory.view id (some (members.value memory.heap)) = memory.view := by
    rw [← view_of_object here, Function.update_eq_self]
  simp [Objects.call, Objects.run_object (view_of_object here), throws, same]

theorem refines_of_no_memory {value : Objects.Method T Unit}
    (threw : body.run memory = .error (.throw badAlloc) memory) : memory.Refines body value :=
  .inr ⟨badAlloc, threw, .inl rfl⟩

theorem becomes_same (sound : memory.Sound) (here : memory.objects id = some members)
    (ran : body.run memory = .ok () memory) :
    memory.Becomes body id (members.value memory.heap) := by
  refine ⟨members, memory.heap, ?_, ?_, ?_⟩
  · rw [changed_self here, ran]
  · rw [changed_self here]
    exact sound
  · rw [changed_self here, ← view_of_object here, Function.update_eq_self]

theorem refines_clear [Zero T] (sound : memory.Sound) (here : memory.objects id = some members) :
    memory.Refines (Memory.clear id) (Objects.call id Buffer.clear) := by
  have fits := sound.fits id members here
  have capacity := fits.wellFormed.capacity_eq
  have used := fits.used_le
  have same : (members.value memory.heap).capacity = members.capacity := rfl
  have stores := becomes_store sound here (show
    0 + (List.replicate members.used (0 : T)).length ≤ members.capacity by simp; omega)
  refine (stores.congr ?_).refines_call here ?_
  · rw [Memory.clear, EStateM.run_bind, run_object here]
  · have inside : 0 + (List.replicate members.used (0 : T)).length ≤
        (members.value memory.heap).cells.length := by
      simp
      omega
    exact run_store_of_inside _ _ _ inside

theorem becomes_assigned (sound : memory.Sound) (here : memory.objects id = some members)
    {data : List T} (room : data.length ≤ members.capacity) :
    memory.Becomes
      (do
        store (← object id).ptr 0 data
        put id (some { ← object id with used := data.length })) id
      { (members.value memory.heap).stored 0 data with used := data.length } := by
  have stores := becomes_store sound here (show 0 + data.length ≤ members.capacity by omega)
  have both : memory.Becomes (store members.ptr 0 data >>= fun _ => do
      put id (some { ← object id with used := data.length })) id
      { (members.value memory.heap).stored 0 data with used := data.length } := by
    refine stores.bind fun next found kept there value => ?_
    have capacity : found.capacity = members.capacity := by
      have same := congrArg Buffer.capacity value
      rw [capacity_stored] at same
      exact same
    have counts := becomes_counted kept there (show data.length ≤ found.capacity by omega)
    rw [value] at counts
    refine counts.congr ?_
    rw [EStateM.run_bind, run_object there]
  refine both.congr ?_
  rw [EStateM.run_bind, run_object here]

variable [Inhabited T]

theorem refines_resize (sound : memory.Sound) (here : memory.objects id = some members)
    (granted : Bool) {newCapacity : Nat} (positive : 0 < newCapacity) (preserveContent : Bool) :
    memory.Refines (Memory.resize granted id newCapacity preserveContent)
      (Objects.call id (Buffer.resize newCapacity preserveContent)) := by
  have wellFormed := (sound.fits id members here).wellFormed
  cases owned : members.ownMem with
  | false =>
      exact refines_of_throw here
        (run_resize_of_foreign here owned granted newCapacity preserveContent)
        (Buffer.run_resize_of_foreign owned)
  | true =>
      rcases resize_becomes sound here owned granted positive preserveContent with
        becomes | refused
      · exact becomes.refines_call here
          (run_resize_of_owned newCapacity preserveContent wellFormed owned positive)
      · exact refines_of_no_memory refused

theorem refines_setCapacity (sound : memory.Sound) (here : memory.objects id = some members)
    (granted : Bool) (newCapacity : Nat) (preserveContent : Bool) :
    memory.Refines (Memory.setCapacity granted id newCapacity preserveContent)
      (Objects.call id (Buffer.setCapacity newCapacity preserveContent)) := by
  cases owned : members.ownMem with
  | false =>
      apply refines_of_throw here _ (run_setCapacity_of_foreign owned)
      simp [Memory.setCapacity, run_object here, owned]
  | true =>
      rcases setCapacity_becomes sound here owned granted newCapacity preserveContent with
        ⟨buffer, becomes, ran⟩ | refused
      · exact becomes.refines_call here ran
      · exact refines_of_no_memory refused

theorem refines_assign (sound : memory.Sound) (here : memory.objects id = some members)
    (granted : Bool) (data : List T) :
    memory.Refines (Memory.assign granted id data)
      (Objects.call id (Buffer.assign data)) := by
  have fits := sound.fits id members here
  have wellFormed := fits.wellFormed
  by_cases empty : data = []
  case pos =>
    refine (becomes_same sound here ?_).refines_call here ?_
    · simp [Memory.assign, empty]
    · simp [Buffer.assign, empty]
  have positive := List.length_pos_iff.mpr empty
  by_cases long : data.length > members.capacity
  case neg =>
    have capacity := wellFormed.capacity_eq
    have equal : (members.value memory.heap).capacity = members.capacity := rfl
    refine ((becomes_assigned sound here (Nat.le_of_not_gt long)).congr ?_).refines_call here ?_
    · rw [Memory.assign, if_neg (Nat.ne_of_lt positive), EStateM.run_bind, run_object here]
      simp only [long, decide_false, EStateM.run_bind, Exec.run_when_false]
    · simp [Buffer.assign, Nat.ne_of_lt positive, equal, long,
        run_store_of_inside (members.value memory.heap) 0 data (by omega)]
  cases owned : members.ownMem with
  | false =>
      refine refines_of_throw here ?_ (run_assign_of_foreign owned long)
      rw [Memory.assign, if_neg (Nat.ne_of_lt positive), EStateM.run_bind, run_object here]
      simp only [long, decide_true, EStateM.run_bind, Exec.run_when_true,
        run_resize_of_foreign here owned]
  | true =>
      rcases resize_becomes sound here owned granted positive false with becomes | refused
      case inr =>
        apply refines_of_no_memory
        rw [Memory.assign, if_neg (Nat.ne_of_lt positive), EStateM.run_bind, run_object here]
        simp only [long, decide_true, EStateM.run_bind, Exec.run_when_true, refused]
      case inl =>
        have resized := wellFormed.resized data.length false
        have room : data.length ≤
            ((members.value memory.heap).resized data.length false).capacity := by
          simpa using resized.used_le
        have capacity := resized.capacity_eq
        have both := becomes.bind fun next found kept there value => by
          have same := congrArg Buffer.capacity value
          have assigned := @becomes_assigned T next id found kept there data
            (by rw [show found.capacity = _ from same]; exact room)
          rw [value] at assigned
          exact assigned
        refine (both.congr ?_).refines_call here ?_
        · rw [Memory.assign, if_neg (Nat.ne_of_lt positive), EStateM.run_bind, run_object here]
          simp only [long, decide_true, Exec.when, if_true]
        · have equal : data.length > (members.value memory.heap).capacity := long
          simp [Buffer.assign, Nat.ne_of_lt positive, equal,
            run_resize_of_owned data.length false wellFormed owned positive,
            run_store_of_inside ((members.value memory.heap).resized data.length false) 0 data
              (by omega)]

/-- `append`, whose argument can still be read behind the `resize`. -/
theorem refines_append (sound : memory.Sound) (here : memory.objects id = some members)
    (granted : Bool) {buf : Memory.Method T (List T)} {data : List T}
    (small : data.length < 2 ^ 63)
    (readable : ∀ found heap,
      (Memory.resize granted id (members.used + data.length) true).run memory =
        .ok () (memory.changed id (some found) heap) →
      (memory.changed id (some found) heap).Sound →
      (memory.changed id (some found) heap).view = update memory.view id
        (some ((members.value memory.heap).resized (members.used + data.length) true)) →
      buf.run (memory.changed id (some found) heap) =
        .ok data (memory.changed id (some found) heap)) :
    memory.Refines (Memory.append granted id data.length buf)
      (Objects.call id (Buffer.append data)) := by
  have fits := sound.fits id members here
  have wellFormed := fits.wellFormed
  by_cases empty : data = []
  case pos =>
    refine (becomes_same sound here ?_).refines_call here ?_
    · simp [Memory.append, empty]
    · simp [Buffer.append, empty]
  have positive := List.length_pos_iff.mpr empty
  have used := fits.used_le
  have below := fits.small
  have sum : (members.used + data.length) % 2 ^ 64 = members.used + data.length :=
    Nat.mod_eq_of_lt (by omega)
  cases owned : members.ownMem with
  | false =>
      refine refines_of_throw here ?_ (run_append_of_foreign owned positive)
      rw [Memory.append, if_neg (Nat.ne_of_lt positive), EStateM.run_bind, run_object here]
      simp only [EStateM.run_bind, run_resize_of_foreign here owned]
  | true =>
      rcases resize_becomes sound here owned granted
        (show 0 < members.used + data.length by omega) true with becomes | refused
      case inr =>
        apply refines_of_no_memory
        rw [Memory.append, if_neg (Nat.ne_of_lt positive), EStateM.run_bind, run_object here]
        simp only [sum, EStateM.run_bind, refused]
      case inl =>
        obtain ⟨found, heap, ran, kept, view⟩ := becomes
        have reads := readable found heap ran kept view
        have value := value_of_view view
        have there : (memory.changed id (some found) heap).objects id = some found :=
          objects_changed_self ..
        have length : found.used = members.used + data.length := by
          have same := congrArg Buffer.used value
          rwa [used_resized] at same
        have room := (kept.fits id found there).used_le
        obtain ⟨last, heap', stored, kept', view'⟩ := @becomes_store T _ id found kept there
          members.used data (by omega)
        rw [changed_changed] at stored kept' view'
        have extended : memory.Becomes (Memory.append granted id data.length buf) id
            ((members.value memory.heap).extended data) := by
          refine ⟨last, heap', ?_, kept', ?_⟩
          · rw [Memory.append, if_neg (Nat.ne_of_lt positive), EStateM.run_bind,
              run_object here]
            simp only [sum, EStateM.run_bind, ran, run_object there, reads, length,
              Nat.add_sub_cancel, stored]
          · rw [view', view, heap_changed, value, Function.update_idem]
            rfl
        have total : (members.value memory.heap).used + data.length < 2 ^ 64 := by
          show members.used + data.length < 2 ^ 64
          omega
        exact extended.refines_call here
          (run_append_of_owned wellFormed owned positive total)

end Refines

end Memory

end Buffer

end TestReactor
