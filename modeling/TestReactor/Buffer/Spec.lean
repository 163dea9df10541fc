import TestReactor.Buffer

namespace TestReactor

namespace Buffer

def stored (buffer : Buffer T) (start : Nat) (data : List T) : Buffer T :=
  if data = [] then buffer
  else { buffer with ptr := some (Cells.overwrite buffer.cells start data) }

theorem run_store_of_inside (buffer : Buffer T) (start : Nat) (data : List T)
    (inside : start + data.length ≤ buffer.cells.length) :
    (store start data).run buffer =
      .ok () (buffer.stored start data) := by
  by_cases empty : data = []
  · simp [store, stored, empty]
  · simp [store, stored, empty, inside]

theorem run_store_of_outside {buffer : Buffer T} {start : Nat} {data : List T}
    (nonempty : data ≠ []) (outside : ¬ start + data.length ≤ buffer.cells.length) :
    (store start data).run buffer = .error .fault buffer := by
  simp [store, nonempty, outside]

theorem run_load_of_inside {buffer : Buffer T} {start count : Nat}
    (inside : start + count ≤ buffer.cells.length) :
    (load start count).run buffer =
      .ok (Cells.slice buffer.cells start count) buffer := by
  by_cases empty : count = 0
  · simp [load, empty]
  · simp [load, empty, inside]

@[simp] theorem capacity_stored (buffer : Buffer T) (start : Nat) (data : List T) :
    (buffer.stored start data).capacity = buffer.capacity := by
  unfold stored
  split <;> rfl

@[simp] theorem used_stored (buffer : Buffer T) (start : Nat) (data : List T) :
    (buffer.stored start data).used = buffer.used := by
  unfold stored
  split <;> rfl

theorem cells_stored (buffer : Buffer T) (start : Nat) (data : List T) :
    (buffer.stored start data).cells = Cells.overwrite buffer.cells start data := by
  unfold stored
  split
  · rename_i empty
    simp [empty]
  · rfl

theorem WellFormed.stored {buffer : Buffer T} {start : Nat} {data : List T}
    (wellFormed : buffer.WellFormed)
    (inside : start + data.length ≤ buffer.cells.length) :
    (buffer.stored start data).WellFormed := by
  constructor
  · rw [capacity_stored, cells_stored, Cells.length_overwrite inside]
    exact wellFormed.capacity_eq
  · simpa using wellFormed.used_le

def movedToFront (buffer : Buffer T) (source count : Nat) : Buffer T :=
  buffer.stored 0 (Cells.slice buffer.cells source count)

theorem run_move_of_inside (buffer : Buffer T) (source count : Nat)
    (inside : source + count ≤ buffer.cells.length) :
    (move 0 source count).run buffer =
      .ok () (buffer.movedToFront source count) := by
  have length := Cells.length_slice inside
  simp [move, run_load_of_inside inside,
    run_store_of_inside buffer 0 (Cells.slice buffer.cells source count) (by omega),
    movedToFront]

theorem movedToFront_zero {buffer : Buffer T} {count : Nat}
    (inside : count ≤ buffer.cells.length) :
    buffer.movedToFront 0 count = buffer := by
  unfold movedToFront stored
  split
  · rfl
  · rename_i nonempty
    rw [Cells.overwrite_slice_self (by omega)]
    cases hptr : buffer.ptr with
    | none => simp [cells, hptr, Cells.slice] at nonempty
    | some memory => cases buffer; simp_all [cells]

theorem slice_cells_movedToFront {buffer : Buffer T} {source count : Nat}
    (inside : source + count ≤ buffer.cells.length) :
    Cells.slice (buffer.movedToFront source count).cells 0 count =
      Cells.slice buffer.cells source count := by
  have length := Cells.length_slice inside
  have copied := Cells.slice_overwrite_self buffer.cells
    (Cells.slice buffer.cells source count) 0 (by omega)
  rw [length] at copied
  rw [movedToFront, cells_stored, copied]

theorem length_elements_le (buffer : Buffer T) :
    buffer.elements.length ≤ buffer.used := List.length_take_le _ _

section Resize

variable [Inhabited T]

def resized (buffer : Buffer T) (newCapacity : Nat) (preserveContent : Bool) :
    Buffer T :=
  if newCapacity > buffer.capacity then
    { buffer with
      ptr := some (Cells.overwrite (newArray newCapacity) 0
        (if preserveContent && buffer.ptr.isSome then buffer.elements else []))
      capacity := newCapacity
      used := newCapacity }
  else { buffer with used := newCapacity }

theorem run_resize_of_foreign {buffer : Buffer T} {newCapacity : Nat}
    {preserveContent : Bool} (foreign : buffer.ownMem = false) :
    (resize newCapacity preserveContent).run buffer =
      .error (.throw "Cannot resize buffer which does not own its storage.")
        buffer := by
  simp [resize, foreign]

theorem run_resize_of_zero {buffer : Buffer T} (preserveContent : Bool)
    (owned : buffer.ownMem = true) :
    (resize 0 preserveContent).run buffer = .error .abort buffer := by
  simp [resize, owned, Exec.assert]

theorem run_resize_of_owned {buffer : Buffer T} (newCapacity : Nat)
    (preserveContent : Bool) (wellFormed : buffer.WellFormed)
    (owned : buffer.ownMem = true) (positive : 0 < newCapacity) :
    (resize newCapacity preserveContent).run buffer =
      .ok () (buffer.resized newCapacity preserveContent) := by
  have capacity := wellFormed.capacity_eq
  have used := wellFormed.used_le
  have loaded : (load 0 buffer.used).run buffer = .ok buffer.elements buffer := by
    rw [run_load_of_inside (by omega)]
    rfl
  unfold resize resized
  by_cases grows : newCapacity > buffer.capacity
  · cases preserveContent <;> cases hptr : buffer.ptr <;>
      simp [owned, positive, grows, loaded, hptr]
  · simp [owned, positive, grows]

theorem WellFormed.resized {buffer : Buffer T} (wellFormed : buffer.WellFormed)
    (newCapacity : Nat) (preserveContent : Bool) :
    (buffer.resized newCapacity preserveContent).WellFormed := by
  have capacity := wellFormed.capacity_eq
  have used := wellFormed.used_le
  have kept := buffer.length_elements_le
  unfold Buffer.resized
  split
  · refine ⟨?_, Nat.le_refl _⟩
    simp only [cells, Option.getD_some]
    rw [Cells.length_overwrite]
    · simp [newArray]
    · rw [newArray, List.length_replicate]
      split
      · omega
      · exact Nat.zero_le newCapacity
  · exact ⟨capacity, by simp only; omega⟩

@[simp] theorem used_resized (buffer : Buffer T) (newCapacity : Nat)
    (preserveContent : Bool) :
    (buffer.resized newCapacity preserveContent).used = newCapacity := by
  unfold resized
  split <;> rfl

end Resize

theorem elements_stored_of_length {buffer : Buffer T} {data : List T}
    (wellFormed : buffer.WellFormed) (exact : buffer.used = data.length) :
    (buffer.stored 0 data).elements = data := by
  have capacity := wellFormed.capacity_eq
  have used := wellFormed.used_le
  rw [elements, cells_stored, used_stored, exact]
  have copied := Cells.slice_overwrite_self buffer.cells data 0 (by omega)
  simpa [Cells.slice] using copied

end Buffer

end TestReactor
