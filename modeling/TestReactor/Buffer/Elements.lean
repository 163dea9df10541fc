import TestReactor.Buffer.Operations
import TestReactor.Buffer.Spec

namespace TestReactor

namespace Buffer

/-! What the operations make of the elements, as a list. -/

theorem WellFormed.length_elements {buffer : Buffer T} (wellFormed : buffer.WellFormed) :
    buffer.elements.length = buffer.used := by
  have capacity := wellFormed.capacity_eq
  have used := wellFormed.used_le
  rw [elements, List.length_take]
  omega

theorem elements_of_no_storage {buffer : Buffer T} (empty : buffer.ptr = none) :
    buffer.elements = [] := by
  simp [elements, cells, empty]

theorem kept_eq {buffer : Buffer T} {kept : List T} (nothing : buffer.elements = [] → kept = []) :
    (if true && buffer.ptr.isSome then kept else []) = kept := by
  cases storage : buffer.ptr with
  | none => exact (nothing (elements_of_no_storage storage)).symm
  | some memory => rfl

/-- As far as both lists reach they are the same. -/
def Keeps (old next : List T) : Prop := next.take old.length = old.take next.length

theorem Keeps.refl (list : List T) : Keeps list list := rfl

theorem keeps_take (list : List T) (length : Nat) : Keeps list (list.take length) := by
  simp [Keeps, List.take_take, Nat.min_comm]

section Construction

theorem wellFormed_ofMemory (memory : List T) : (ofMemory memory).WellFormed :=
  ⟨rfl, Nat.le_refl _⟩

theorem elements_ofMemory (memory : List T) : (ofMemory memory).elements = memory :=
  List.take_length

theorem wellFormed_moved : (moved T).WellFormed := ⟨rfl, Nat.le_refl _⟩

theorem cells_ofBuffer (other : Buffer T) : (ofBuffer other).cells = other.elements := by
  simp only [ofBuffer, cells]
  split
  · rfl
  · rename_i empty
    have none : other.used = 0 := by omega
    simp [elements, none]

theorem elements_ofBuffer (other : Buffer T) : (ofBuffer other).elements = other.elements := by
  rw [elements, cells_ofBuffer]
  simp [ofBuffer, elements, List.take_take]

theorem WellFormed.ofBuffer {other : Buffer T} (wellFormed : other.WellFormed) :
    (ofBuffer other).WellFormed := by
  refine ⟨?_, Nat.le_refl _⟩
  rw [cells_ofBuffer, wellFormed.length_elements]
  rfl

theorem cells_ofCopy (memory : List T) : (ofCopy memory).cells = memory := by
  simp only [ofCopy, cells]
  split
  · rfl
  · rename_i empty
    exact (List.eq_nil_of_length_eq_zero (by omega)).symm

theorem wellFormed_ofCopy (memory : List T) : (ofCopy memory).WellFormed :=
  ⟨congrArg List.length (cells_ofCopy memory).symm, Nat.le_refl _⟩

theorem elements_ofCopy (memory : List T) : (ofCopy memory).elements = memory := by
  rw [elements, cells_ofCopy]
  exact List.take_length

variable [Inhabited T]

theorem wellFormed_ofLength (length : Nat) : (ofLength length : Buffer T).WellFormed := by
  refine ⟨?_, Nat.le_refl _⟩
  simp only [ofLength, cells]
  split
  · simp [newArray]
  · rename_i empty
    simp only [Option.getD_none, List.length_nil]
    omega

end Construction

theorem elements_stored_behind {buffer : Buffer T} (wellFormed : buffer.WellFormed)
    {start : Nat} {data : List T} (behind : start + data.length = buffer.used) :
    (buffer.stored start data).elements = buffer.elements.take start ++ data := by
  have capacity := wellFormed.capacity_eq
  have used := wellFormed.used_le
  rw [elements, cells_stored, used_stored, Cells.overwrite, elements, List.take_take,
    Nat.min_eq_left (by omega), List.take_append_of_le_length]
  · exact List.take_of_length_le (by simp; omega)
  · simp
    omega

theorem elements_stored_whole {buffer : Buffer T} (wellFormed : buffer.WellFormed)
    {data : List T} (room : data.length ≤ buffer.capacity) :
    ({ buffer.stored 0 data with used := data.length } : Buffer T).WellFormed ∧
      ({ buffer.stored 0 data with used := data.length } : Buffer T).elements = data := by
  have capacity := wellFormed.capacity_eq
  have inside : 0 + data.length ≤ buffer.cells.length := by omega
  refine ⟨⟨(wellFormed.stored inside).capacity_eq, by simpa using room⟩, ?_⟩
  have copied := Cells.slice_overwrite_self buffer.cells data 0 inside
  rw [← cells_stored] at copied
  simpa [Cells.slice, elements, cells] using copied

theorem run_clear [Zero T] {buffer : Buffer T} (wellFormed : buffer.WellFormed) :
    ∃ next, clear.run buffer = .ok () next ∧ next.WellFormed ∧
      next.elements = List.replicate buffer.used 0 := by
  have capacity := wellFormed.capacity_eq
  have used := wellFormed.used_le
  have inside : 0 + (List.replicate buffer.used (0 : T)).length ≤ buffer.cells.length := by
    rw [List.length_replicate]
    omega
  refine ⟨_, ?_, wellFormed.stored inside, elements_stored_of_length wellFormed (by simp)⟩
  simp [clear, run_store_of_inside buffer 0 _ inside]

section Calls

variable [Inhabited T] {buffer : Buffer T}

def reallocated (buffer : Buffer T) (newCapacity used : Nat) (kept : List T) : Buffer T :=
  { buffer with
    ptr := some (Cells.overwrite (newArray newCapacity) 0 kept)
    capacity := newCapacity
    used := used }

theorem cells_reallocated (buffer : Buffer T) (newCapacity used : Nat) (kept : List T) :
    (buffer.reallocated newCapacity used kept).cells =
      Cells.overwrite (newArray newCapacity) 0 kept := rfl

theorem wellFormed_reallocated (buffer : Buffer T) {newCapacity used : Nat} {kept : List T}
    (fits : kept.length ≤ newCapacity) (within : used ≤ newCapacity) :
    (buffer.reallocated newCapacity used kept).WellFormed := by
  refine ⟨?_, within⟩
  rw [cells_reallocated, Cells.length_overwrite]
  · simp [reallocated, newArray]
  · simpa [newArray] using fits

theorem take_elements_reallocated (buffer : Buffer T) {newCapacity used : Nat} {kept : List T}
    (fits : kept.length ≤ newCapacity) (within : kept.length ≤ used) :
    (buffer.reallocated newCapacity used kept).elements.take kept.length = kept := by
  have copied := Cells.slice_overwrite_self (newArray newCapacity) kept 0
    (by simpa [newArray] using fits)
  rw [elements, cells_reallocated, List.take_take, reallocated, Nat.min_eq_left within]
  simpa [Cells.slice] using copied

theorem length_elements_resized (wellFormed : buffer.WellFormed) (newCapacity : Nat)
    (preserveContent : Bool) :
    (buffer.resized newCapacity preserveContent).elements.length = newCapacity := by
  rw [(wellFormed.resized newCapacity preserveContent).length_elements, used_resized]

theorem keeps_resized (wellFormed : buffer.WellFormed) (newCapacity : Nat) :
    Keeps buffer.elements (buffer.resized newCapacity true).elements := by
  have used := wellFormed.used_le
  have length := wellFormed.length_elements
  rw [Keeps, length_elements_resized wellFormed]
  by_cases grows : newCapacity > buffer.capacity
  · have fresh : buffer.resized newCapacity true =
        buffer.reallocated newCapacity newCapacity buffer.elements := by
      rw [resized, if_pos grows, kept_eq id]
      rfl
    rw [fresh, take_elements_reallocated buffer (by omega) (by omega),
      List.take_of_length_le (by omega)]
  · rw [resized, if_neg grows, length]
    simp only [elements, cells, List.take_take, Nat.min_comm]

theorem run_setCapacity_of_foreign {newCapacity : Nat} {preserveContent : Bool}
    (foreign : buffer.ownMem = false) :
    (setCapacity newCapacity preserveContent).run buffer =
      .error (.throw "Cannot resize buffer which does not own its storage.") buffer := by
  simp [setCapacity, foreign]

theorem run_setCapacity_to_zero (preserveContent : Bool) (owned : buffer.ownMem = true)
    (room : 0 ≠ buffer.capacity) :
    (setCapacity 0 preserveContent).run buffer =
      .ok () { buffer with ptr := none, capacity := 0, used := 0 } := by
  by_cases shrinks : 0 < buffer.used
  · simp [setCapacity, owned, room, shrinks]
  · have none : buffer.used = 0 := by omega
    simp [setCapacity, owned, room, none]

theorem run_setCapacity_anew {newCapacity : Nat} (preserveContent : Bool)
    (wellFormed : buffer.WellFormed) (owned : buffer.ownMem = true)
    (other : newCapacity ≠ buffer.capacity) (positive : newCapacity > 0) :
    (setCapacity newCapacity preserveContent).run buffer =
      .ok () (buffer.reallocated newCapacity (min buffer.used newCapacity)
        (if preserveContent && buffer.ptr.isSome then buffer.elements.take newCapacity
          else [])) := by
  have capacity := wellFormed.capacity_eq
  have used := wellFormed.used_le
  have small : (if buffer.used < newCapacity then buffer.used else newCapacity) =
      min buffer.used newCapacity := by
    split <;> omega
  have loaded : (load 0 (min buffer.used newCapacity)).run buffer =
      .ok (buffer.elements.take newCapacity) buffer := by
    rw [run_load_of_inside (by omega)]
    simp [Cells.slice, elements, List.take_take, Nat.min_comm]
  by_cases shrinks : newCapacity < buffer.used
  · rw [Nat.min_eq_right (by omega)] at small loaded ⊢
    cases preserveContent <;> cases storage : buffer.ptr <;>
      simp [setCapacity, owned, other, positive, small, loaded, reallocated, shrinks, storage]
  · rw [Nat.min_eq_left (by omega)] at small loaded ⊢
    cases preserveContent <;> cases storage : buffer.ptr <;>
      simp [setCapacity, owned, other, positive, small, loaded, reallocated, shrinks, storage]

theorem keeps_setCapacity_anew (newCapacity : Nat) (wellFormed : buffer.WellFormed) :
    Keeps buffer.elements (buffer.reallocated newCapacity (min buffer.used newCapacity)
      (buffer.elements.take newCapacity)).elements := by
  have length := wellFormed.length_elements
  have taken : (buffer.elements.take newCapacity).length = min buffer.used newCapacity := by
    rw [List.length_take]
    omega
  have fits : (buffer.elements.take newCapacity).length ≤ newCapacity := List.length_take_le _ _
  have fresh := wellFormed_reallocated buffer fits (Nat.min_le_right buffer.used newCapacity)
  have front := take_elements_reallocated buffer fits (Nat.le_of_eq taken)
  have short : _ = min buffer.used newCapacity := fresh.length_elements
  rw [taken, List.take_of_length_le (Nat.le_of_eq short)] at front
  rw [front]
  exact keeps_take _ _

theorem run_setCapacity_of_owned (newCapacity : Nat) (preserveContent : Bool)
    (wellFormed : buffer.WellFormed) (owned : buffer.ownMem = true) :
    ∃ next, (setCapacity newCapacity preserveContent).run buffer = .ok () next ∧
      next.WellFormed ∧ next.capacity = newCapacity ∧
      next.used = min buffer.used newCapacity ∧
      (preserveContent = true → Keeps buffer.elements next.elements) := by
  by_cases same : newCapacity = buffer.capacity
  · have used : buffer.used = min buffer.used newCapacity :=
      (Nat.min_eq_left (same ▸ wellFormed.used_le)).symm
    exact ⟨buffer, by simp [setCapacity, owned, same], wellFormed, same.symm, used,
      fun _ => Keeps.refl _⟩
  by_cases positive : newCapacity > 0
  · have short : (if preserveContent && buffer.ptr.isSome then buffer.elements.take newCapacity
        else []).length ≤ newCapacity := by
      split
      · exact List.length_take_le _ _
      · exact Nat.zero_le _
    refine ⟨_, run_setCapacity_anew preserveContent wellFormed owned same positive,
      wellFormed_reallocated buffer short (Nat.min_le_right _ _), rfl, rfl, fun preserve => ?_⟩
    subst preserve
    rw [kept_eq fun none => by simp [none]]
    exact keeps_setCapacity_anew newCapacity wellFormed
  · obtain rfl : newCapacity = 0 := by omega
    exact ⟨_, run_setCapacity_to_zero preserveContent owned same, ⟨rfl, Nat.le_refl _⟩, rfl,
      (Nat.min_zero _).symm, fun _ => by simp [Keeps, elements]⟩

/-- What `append` does where `resize` is allowed. -/
def extended (buffer : Buffer T) (data : List T) : Buffer T :=
  (buffer.resized (buffer.used + data.length) true).stored buffer.used data

theorem WellFormed.extended (wellFormed : buffer.WellFormed) (data : List T) :
    (buffer.extended data).WellFormed := by
  have grown := wellFormed.resized (buffer.used + data.length) true
  have capacity := grown.capacity_eq
  have used := grown.used_le
  rw [used_resized] at used
  exact grown.stored (by omega)

theorem elements_extended (wellFormed : buffer.WellFormed) (data : List T) :
    (buffer.extended data).elements = buffer.elements ++ data := by
  have kept := keeps_resized wellFormed (buffer.used + data.length)
  have length := wellFormed.length_elements
  rw [Keeps, length_elements_resized wellFormed, length,
    List.take_of_length_le (l := buffer.elements) (by omega)] at kept
  rw [Buffer.extended, elements_stored_behind (wellFormed.resized _ _) (used_resized ..).symm, kept]

theorem run_append_of_foreign {data : List T} (foreign : buffer.ownMem = false)
    (positive : 0 < data.length) :
    (append data).run buffer =
      .error (.throw "Cannot resize buffer which does not own its storage.") buffer := by
  simp [append, Nat.ne_of_lt positive, run_resize_of_foreign foreign]

theorem run_append_of_owned (wellFormed : buffer.WellFormed) (owned : buffer.ownMem = true)
    {data : List T} (positive : 0 < data.length) (fits : buffer.used + data.length < 2 ^ 64) :
    (append data).run buffer = .ok () (buffer.extended data) := by
  have grown := wellFormed.resized (buffer.used + data.length) true
  have capacity := grown.capacity_eq
  have used := grown.used_le
  rw [used_resized] at used
  have ran := run_resize_of_owned (buffer.used + data.length) true wellFormed owned (by omega)
  have stores := run_store_of_inside (buffer.resized (buffer.used + data.length) true) buffer.used
    data (by omega)
  rw [append, if_neg (Nat.ne_of_lt positive)]
  simp only [EStateM.run_bind, EStateM.run_get, Nat.mod_eq_of_lt fits, ran, used_resized,
    Nat.add_sub_cancel, stores]
  rfl

theorem appendValue_eq (val : T) : appendValue val = append [val] := by
  simp [appendValue, append]

theorem run_assign_of_foreign {data : List T} (foreign : buffer.ownMem = false)
    (long : data.length > buffer.capacity) :
    (assign data).run buffer =
      .error (.throw "Cannot resize buffer which does not own its storage.") buffer := by
  have positive : 0 < data.length := by omega
  simp [assign, Nat.ne_of_lt positive, long, run_resize_of_foreign foreign]

theorem run_assign (wellFormed : buffer.WellFormed) {data : List T}
    (positive : 0 < data.length)
    (allowed : buffer.ownMem = true ∨ data.length ≤ buffer.capacity) :
    ∃ next, (assign data).run buffer = .ok () next ∧ next.WellFormed ∧ next.elements = data := by
  by_cases long : data.length > buffer.capacity
  · have owned := allowed.resolve_right (by omega)
    have resized := wellFormed.resized data.length false
    have room : data.length ≤ (buffer.resized data.length false).capacity := by
      simpa using resized.used_le
    have capacity := resized.capacity_eq
    refine ⟨_, ?_, elements_stored_whole resized room⟩
    simp [assign, Nat.ne_of_lt positive, long,
      run_resize_of_owned data.length false wellFormed owned positive,
      run_store_of_inside (buffer.resized data.length false) 0 data (by omega)]
  · have capacity := wellFormed.capacity_eq
    refine ⟨_, ?_, elements_stored_whole wellFormed (by omega)⟩
    simp [assign, Nat.ne_of_lt positive, long, run_store_of_inside buffer 0 data (by omega)]

end Calls

end Buffer

end TestReactor
