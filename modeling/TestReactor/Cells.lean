namespace TestReactor

/-! Raw storage as a list of cells, and the copies that `memcpy` and `memmove`
make in it. -/

namespace Cells

/-- The `count` cells from `start` on. -/
def slice (cells : List α) (start count : Nat) : List α :=
  (cells.drop start).take count

/-- The cells after `data` has been copied over them from `start` on. -/
def overwrite (cells : List α) (start : Nat) (data : List α) : List α :=
  cells.take start ++ data ++ cells.drop (start + data.length)

@[simp] theorem slice_zero (cells : List α) (start : Nat) :
    slice cells start 0 = [] := by
  simp [slice]

theorem length_slice {cells : List α} {start count : Nat}
    (inside : start + count ≤ cells.length) :
    (slice cells start count).length = count := by
  simp [slice]
  omega

theorem getElem?_slice {cells : List α} {start count index : Nat} (within : index < count) :
    (slice cells start count)[index]? = cells[start + index]? := by
  simp [slice, within]

theorem slice_add (cells : List α) (start first second : Nat) :
    slice cells start (first + second) =
      slice cells start first ++ slice cells (start + first) second := by
  simp [slice, List.take_add, List.drop_drop]

theorem take_slice (cells : List α) (start count length : Nat) :
    (slice cells start count).take length = slice cells start (min length count) := by
  simp [slice, List.take_take]

theorem drop_slice (cells : List α) (start count length : Nat) :
    (slice cells start count).drop length =
      slice cells (start + length) (count - length) := by
  simp [slice, List.drop_take, List.drop_drop]

@[simp] theorem overwrite_nil (cells : List α) (start : Nat) :
    overwrite cells start [] = cells := by
  simp [overwrite]

theorem length_overwrite {cells data : List α} {start : Nat}
    (inside : start + data.length ≤ cells.length) :
    (overwrite cells start data).length = cells.length := by
  simp [overwrite]
  omega

theorem slice_overwrite_self (cells data : List α) (start : Nat)
    (inside : start + data.length ≤ cells.length) :
    slice (overwrite cells start data) start data.length = data := by
  have front : (cells.take start).length = start := by
    simp
    omega
  simp [slice, overwrite, List.append_assoc, front]

theorem slice_overwrite_before {cells data : List α} {start other count : Nat}
    (before : other + count ≤ start) (inside : start ≤ cells.length) :
    slice (overwrite cells start data) other count = slice cells other count := by
  have front : (cells.take start).length = start := by
    simp
    omega
  have room : count ≤ ((cells.take start).drop other).length := by
    simp
    omega
  rw [slice, overwrite, List.append_assoc,
    List.drop_append_of_le_length (by omega),
    List.take_append_of_le_length room, slice, List.drop_take, List.take_take,
    Nat.min_eq_left (by omega)]

theorem mem_of_mem_slice {cells : List α} {start count : Nat} {element : α}
    (member : element ∈ slice cells start count) : element ∈ cells :=
  List.mem_of_mem_drop (List.mem_of_mem_take member)

theorem mem_of_mem_overwrite {cells data : List α} {start : Nat} {element : α}
    (member : element ∈ overwrite cells start data) : element ∈ data ∨ element ∈ cells := by
  rw [overwrite, List.mem_append, List.mem_append] at member
  obtain (front | copied) | rest := member
  · exact .inr (List.mem_of_mem_take front)
  · exact .inl copied
  · exact .inr (List.mem_of_mem_drop rest)

theorem slice_overwrite_front {cells data : List α} {start count : Nat}
    (within : start + count ≤ data.length) :
    slice (overwrite cells 0 data) start count = slice data start count := by
  have front : count ≤ (data.drop start).length := by
    rw [List.length_drop]
    omega
  rw [slice, overwrite, List.take_zero, List.nil_append,
    List.drop_append_of_le_length (by omega), List.take_append_of_le_length front, slice]

theorem slice_take {cells : List α} {length start count : Nat}
    (within : start + count ≤ length) :
    slice (cells.take length) start count = slice cells start count := by
  rw [slice, List.drop_take, List.take_take, Nat.min_eq_left (by omega), slice]

theorem overwrite_slice_self {cells : List α} {start count : Nat}
    (inside : start + count ≤ cells.length) :
    overwrite cells start (slice cells start count) = cells := by
  rw [overwrite, length_slice inside, slice, List.append_assoc, ← List.drop_drop,
    List.take_append_drop, List.take_append_drop]

end Cells

end TestReactor
