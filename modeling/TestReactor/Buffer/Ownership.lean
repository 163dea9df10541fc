import TestReactor.Buffer.Elements
import TestReactor.Buffer.Pointers

namespace TestReactor

namespace Buffer

/-! Every array of `new[]` has one owner, and what the buffers amount to. -/

open Function (update)

namespace Members

def value (members : Members) (heap : Heap (Block T)) : Buffer T where
  capacity := members.capacity
  used := members.used
  ptr := members.ptr.map fun address => ((heap.block address).map Block.cells).getD []
  ownMem := members.ownMem

structure Fits (members : Members) (heap : Heap (Block T)) : Prop where
  used_le : members.used ≤ members.capacity
  small : members.capacity < 2 ^ 63
  null : members.ptr = none → members.capacity = 0
  there : ∀ address, members.ptr = some address →
    ∃ block, heap.block address = some block ∧ block.cells.length = members.capacity ∧
      block.dynamic = members.ownMem

variable {members : Members} {heap after : Heap (Block T)}

theorem value_of_ptr {address : Nat} {block : Block T} (points : members.ptr = some address)
    (there : heap.block address = some block) :
    members.value heap =
      ⟨members.capacity, members.used, some block.cells, members.ownMem⟩ := by
  simp [value, points, there]

theorem value_of_null (null : members.ptr = none) :
    members.value heap = ⟨members.capacity, members.used, none, members.ownMem⟩ := by
  simp [value, null]

theorem cells_value {address : Nat} {block : Block T} (points : members.ptr = some address)
    (there : heap.block address = some block) : (members.value heap).cells = block.cells := by
  rw [value_of_ptr points there]
  rfl

theorem value_congr (same : ∀ address, members.ptr = some address →
    after.block address = heap.block address) : members.value after = members.value heap := by
  cases points : members.ptr with
  | none => rw [value_of_null points, value_of_null points]
  | some address => simp only [value, points, Option.map_some, same address points]

theorem Fits.congr (fits : members.Fits heap) (same : ∀ address, members.ptr = some address →
    after.block address = heap.block address) : members.Fits after where
  used_le := fits.used_le
  small := fits.small
  null := fits.null
  there address points := by
    rw [same address points]
    exact fits.there address points

theorem Fits.wellFormed (fits : members.Fits heap) : (members.value heap).WellFormed := by
  refine ⟨?_, fits.used_le⟩
  cases points : members.ptr with
  | none =>
      rw [value_of_null points]
      exact fits.null points
  | some address =>
      obtain ⟨block, there, length, _⟩ := fits.there address points
      rw [value_of_ptr points there]
      exact length.symm

end Members

namespace Memory

def holds (memory : Memory T) (id : Nat) : Option Nat :=
  (memory.objects id).bind Members.ptr

def view (memory : Memory T) : Objects T := fun id =>
  (memory.objects id).map fun members => members.value memory.heap

structure Sound (memory : Memory T) : Prop where
  held : memory.heap.Held (fun block => block.dynamic = true) memory.holds
  fits : ∀ id members, memory.objects id = some members → members.Fits memory.heap

def changed (memory : Memory T) (id : Nat) (members : Option Members)
    (heap : Heap (Block T)) : Memory T :=
  ⟨update memory.objects id members, heap⟩

section Change

variable {memory : Memory T} {id other : Nat} {members : Members}

theorem objects_changed_self (memory : Memory T) (id : Nat) (members : Option Members)
    (heap : Heap (Block T)) : (memory.changed id members heap).objects id = members :=
  Function.update_self ..

theorem objects_changed_of_ne (apart : other ≠ id) (memory : Memory T)
    (members : Option Members) (heap : Heap (Block T)) :
    (memory.changed id members heap).objects other = memory.objects other :=
  Function.update_of_ne apart ..

theorem changed_changed (first second : Option Members) (heap heap' : Heap (Block T)) :
    (memory.changed id first heap).changed id second heap' = memory.changed id second heap' := by
  simp only [changed, Function.update_idem]

theorem changed_self (here : memory.objects id = some members) :
    memory.changed id (some members) memory.heap = memory := by
  rw [changed, ← here, Function.update_eq_self]

theorem sound_empty : (Memory.empty : Memory T).Sound where
  held := .empty
  fits _ _ there := nomatch there

theorem holds_of_ptr {address : Nat} (here : memory.objects id = some members)
    (points : members.ptr = some address) : memory.holds id = some address := by
  rw [holds, here]
  exact points

theorem view_of_object (here : memory.objects id = some members) :
    memory.view id = some (members.value memory.heap) := by
  rw [view, here]
  rfl

theorem holds_changed (memory : Memory T) (id : Nat) (members : Option Members)
    (heap : Heap (Block T)) :
    (memory.changed id members heap).holds =
      update memory.holds id (members.bind Members.ptr) := by
  funext other
  by_cases own : other = id
  · rw [own, Function.update_self, holds, objects_changed_self]
  · rw [Function.update_of_ne own, holds, objects_changed_of_ne own]
    rfl

/-- The frame rule: a change that leaves the arrays of the other buffers alone is one of the
buffer `id` only. -/
theorem Sound.changed (sound : memory.Sound) {members : Option Members}
    {heap : Heap (Block T)}
    (held : heap.Held (fun block => block.dynamic = true)
      (update memory.holds id (members.bind Members.ptr)))
    (same : ∀ other address, other ≠ id → memory.holds other = some address →
      heap.block address = memory.heap.block address)
    (fits : ∀ found ∈ members, found.Fits heap) :
    (memory.changed id members heap).Sound ∧
      (memory.changed id members heap).view =
        update memory.view id (members.map fun found => found.value heap) := by
  refine ⟨⟨?_, ?_⟩, ?_⟩
  · rw [holds_changed]
    exact held
  · intro other found there
    by_cases own : other = id
    · rw [own, objects_changed_self] at there
      exact fits found there
    · rw [objects_changed_of_ne own] at there
      exact (sound.fits other found there).congr fun address points =>
        same other address own (holds_of_ptr there points)
  · funext other
    by_cases own : other = id
    · rw [own, Function.update_self, view, objects_changed_self]
      rfl
    · rw [Function.update_of_ne own, view, view, objects_changed_of_ne own]
      cases there : memory.objects other with
      | none => rfl
      | some found =>
          exact congrArg some (Members.value_congr fun address points =>
            same other address own (holds_of_ptr there points))

end Change

/-! The changes that operations make. -/

def released (heap : Heap (Block T)) : Option Nat → Heap (Block T)
  | some address => heap.release address
  | none => heap

/-- The heap once the buffer `id` has given back what it owns. -/
def vacated (memory : Memory T) (id : Nat) : Heap (Block T) :=
  match memory.objects id with
  | some members => if members.ownMem then released memory.heap members.ptr else memory.heap
  | none => memory.heap

section Changes

variable {memory : Memory T} {id : Nat} {members : Members}

theorem vacated_of_owned (here : memory.objects id = some members)
    (owned : members.ownMem = true) :
    memory.vacated id = released memory.heap members.ptr := by
  rw [vacated, here]
  exact if_pos owned

theorem vacated_of_foreign (here : memory.objects id = some members)
    (foreign : members.ownMem = false) : memory.vacated id = memory.heap := by
  rw [vacated, here]
  exact if_neg (Bool.eq_false_iff.mp foreign)

theorem vacated_of_absent (absent : memory.objects id = none) :
    memory.vacated id = memory.heap := by
  rw [vacated, absent]

theorem next_vacated (memory : Memory T) (id : Nat) :
    (memory.vacated id).next = memory.heap.next := by
  unfold vacated released
  split
  · split
    · split <;> rfl
    · rfl
  · rfl

theorem update_holds (null : memory.holds id = none) :
    update memory.holds id none = memory.holds := by
  rw [← null, Function.update_eq_self]

theorem Sound.held_vacated (sound : memory.Sound) (id : Nat) :
    (memory.vacated id).Held (fun block => block.dynamic = true)
      (update memory.holds id none) := by
  cases here : memory.objects id with
  | none =>
      rw [vacated_of_absent here, update_holds (by rw [holds, here]; rfl)]
      exact sound.held
  | some members =>
      cases points : members.ptr with
      | none =>
          have null : memory.holds id = none := by
            rw [holds, here]
            exact points
          rw [update_holds null]
          cases owned : members.ownMem with
          | true =>
              rw [vacated_of_owned here owned, points]
              exact sound.held
          | false =>
              rw [vacated_of_foreign here owned]
              exact sound.held
      | some address =>
          have holding := holds_of_ptr here points
          cases owned : members.ownMem with
          | true =>
              rw [vacated_of_owned here owned, points]
              exact sound.held.release holding
          | false =>
              obtain ⟨block, there, _, dynamic⟩ :=
                (sound.fits id members here).there address points
              rw [vacated_of_foreign here owned]
              apply sound.held.abandon holding there
              rw [dynamic, owned]
              exact Bool.false_ne_true

theorem Sound.block_vacated (sound : memory.Sound) {other address : Nat} (apart : other ≠ id)
    (holding : memory.holds other = some address) :
    (memory.vacated id).block address = memory.heap.block address := by
  cases here : memory.objects id with
  | none => rw [vacated_of_absent here]
  | some members =>
      cases owned : members.ownMem with
      | false => rw [vacated_of_foreign here owned]
      | true =>
          rw [vacated_of_owned here owned]
          cases points : members.ptr with
          | none => rfl
          | some found =>
              apply Heap.block_release_of_ne
              rintro rfl
              exact apart (sound.held.once other id address holding (holds_of_ptr here points))

theorem Sound.emptied (sound : memory.Sound) (id : Nat) {next : Option Members}
    (empty : ∀ found ∈ next, found.ptr = none ∧ found.capacity = 0 ∧ found.used = 0) :
    (memory.changed id next (memory.vacated id)).Sound ∧
      (memory.changed id next (memory.vacated id)).view =
        update memory.view id (next.map fun found => found.value (memory.vacated id)) := by
  have null : next.bind Members.ptr = none := by
    cases next with
    | none => rfl
    | some found => exact (empty found rfl).1
  apply sound.changed
  · rw [null]
    exact sound.held_vacated id
  · exact fun other address apart holding => sound.block_vacated apart holding
  · intro found there
    obtain ⟨ptr, capacity, used⟩ := empty found there
    refine ⟨by omega, by omega, fun _ => capacity, fun address points => ?_⟩
    cases ptr.symm.trans points

theorem Sound.renewed (sound : memory.Sound) (id : Nat) (block : Block T) {used : Nat}
    (within : used ≤ block.cells.length) (small : block.cells.length < 2 ^ 63) :
    let next : Members := ⟨block.cells.length, used, some memory.heap.next, block.dynamic⟩
    let heap := (memory.vacated id).alloc block
    (memory.changed id (some next) heap).Sound ∧
      (memory.changed id (some next) heap).view = update memory.view id
        (some ⟨block.cells.length, used, some block.cells, block.dynamic⟩) := by
  intro next heap
  have there : heap.block memory.heap.next = some block := by
    have self := (memory.vacated id).block_alloc_self block
    rwa [next_vacated] at self
  have fits : next.Fits heap := by
    refine ⟨within, small, (fun null => nomatch null), fun address points => ?_⟩
    cases points
    exact ⟨block, there, rfl, rfl⟩
  have value : next.value heap =
      ⟨block.cells.length, used, some block.cells, block.dynamic⟩ :=
    Members.value_of_ptr rfl there
  rw [← value]
  refine sound.changed ?_ ?_ ?_
  · have held := (sound.held_vacated id).alloc (Function.update_self ..) block
    rw [Function.update_idem, next_vacated] at held
    exact held
  · intro other address apart holding
    rw [← sound.block_vacated apart holding]
    apply Heap.block_alloc_of_ne
    rw [next_vacated]
    exact sound.held.ne_next holding
  · rintro found ⟨⟩
    exact fits

theorem Sound.written (sound : memory.Sound) (here : memory.objects id = some members)
    {address used : Nat} {block : Block T} {cells : List T}
    (points : members.ptr = some address) (there : memory.heap.block address = some block)
    (length : cells.length = block.cells.length) (within : used ≤ members.capacity) :
    let next : Members := { members with used := used }
    let heap := memory.heap.write address { block with cells := cells }
    (memory.changed id (some next) heap).Sound ∧
      (memory.changed id (some next) heap).view = update memory.view id
        (some { members.value memory.heap with ptr := some cells, used := used }) := by
  intro next heap
  have holding := holds_of_ptr here points
  have fits := sound.fits id members here
  obtain ⟨found, same, capacity, dynamic⟩ := fits.there address points
  cases there.symm.trans same
  have written : heap.block address = some { block with cells := cells } :=
    memory.heap.block_write_self _
  have value : next.value heap =
      { members.value memory.heap with ptr := some cells, used := used } :=
    Members.value_of_ptr (show next.ptr = some address from points) written
  rw [← value]
  refine sound.changed ?_ ?_ ?_
  · rw [show (some next).bind Members.ptr = memory.holds id from points.trans holding.symm,
      Function.update_eq_self]
    exact sound.held.write there fun owed => owed
  · intro other found apart holding'
    apply Heap.block_write_of_ne
    rintro rfl
    exact apart (sound.held.once other id found holding' holding)
  · rintro found ⟨⟩
    refine ⟨within, fits.small, fits.null, fun other same => ?_⟩
    cases points.symm.trans same
    exact ⟨_, written, length.trans capacity, dynamic⟩

theorem Sound.counted (sound : memory.Sound) (here : memory.objects id = some members)
    {used : Nat} (within : used ≤ members.capacity) :
    (memory.changed id (some { members with used := used }) memory.heap).Sound ∧
      (memory.changed id (some { members with used := used }) memory.heap).view =
        update memory.view id (some { members.value memory.heap with used := used }) := by
  have fits := sound.fits id members here
  apply sound.changed
  · rw [show (some { members with used := used }).bind Members.ptr = memory.holds id from by
      rw [holds, here]; rfl, Function.update_eq_self]
    exact sound.held
  · exact fun _ _ _ _ => rfl
  · rintro found ⟨⟩
    exact ⟨within, fits.small, fits.null, fits.there⟩

theorem Sound.exchanged (sound : memory.Sound) (places : Equiv.Perm Nat) :
    (⟨memory.objects ∘ places, memory.heap⟩ : Memory T).Sound ∧
      (⟨memory.objects ∘ places, memory.heap⟩ : Memory T).view = memory.view ∘ places :=
  ⟨⟨sound.held.comp places, fun id members there => sound.fits (places id) members there⟩, rfl⟩

end Changes

end Memory

end Buffer

end TestReactor
