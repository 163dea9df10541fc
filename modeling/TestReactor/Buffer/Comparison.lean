import TestReactor.Buffer.ListSemantics

namespace TestReactor

namespace Buffer

/-! The comparison operators.  `memcmp` compares the representations, so an element is its bytes
here. -/

open Objects

/-- `operator==` -/
def equals [DecidableEq T] (this other : Nat) : Objects.Method T Bool := do
  let left ← object this
  let right ← object other
  if this ≠ other then
    if left.used = right.used then
      if left.ptr.isSome && right.ptr.isSome && decide (left.elements = right.elements) then
        pure true
      else pure (decide (left.used = 0))
    else pure false
  else pure true

/-- `operator!=`, whose `*this != other` is a call of itself, with `depth` calls allowed. -/
def notEquals (depth this other : Nat) : Objects.Method T (Option Bool) :=
  match depth with
  | 0 => pure none
  | depth + 1 => notEquals depth this other

/-- No number of calls is enough. -/
theorem run_notEquals (objects : Objects T) (depth this other : Nat) :
    (notEquals depth this other).run objects = .ok none objects := by
  induction depth with
  | zero => rfl
  | succ depth ih => exact ih

variable [DecidableEq T]

def Compares (objects : Objects T) (this other : Nat) : Prop :=
  ∃ equal, (equals this other).run objects = .ok equal objects ∧
    (equal = true ↔ (objects this).map elements = (objects other).map elements) ∧
    ∃ depth, (notEquals depth this other).run objects = .ok (some (!equal)) objects

theorem run_equals {objects : Objects T} (wellFormed : objects.WellFormed) {this other : Nat}
    {left right : Buffer T} (here : objects this = some left) (there : objects other = some right) :
    (equals this other).run objects = .ok (decide (left.elements = right.elements)) objects := by
  have leftLength := (wellFormed this left here).length_elements
  have rightLength := (wellFormed other right there).length_elements
  by_cases same : this = other
  · subst same
    cases here.symm.trans there
    simp [equals, run_object here]
  by_cases sizes : left.used = right.used
  · by_cases empty : left.used = 0
    · have leftNil := List.eq_nil_of_length_eq_zero (leftLength.trans empty)
      have rightNil := List.eq_nil_of_length_eq_zero (rightLength.trans (sizes.symm.trans empty))
      simp [equals, run_object here, run_object there, same, ← sizes, empty, leftNil, rightNil]
    · -- Buffers with elements have storage.
      have leftSome : left.ptr.isSome = true := by
        cases storage : left.ptr with
        | none => simp [elements_of_no_storage storage, Ne.symm empty] at leftLength
        | some memory => rfl
      have rightSome : right.ptr.isSome = true := by
        cases storage : right.ptr with
        | none => simp [elements_of_no_storage storage, ← sizes, Ne.symm empty] at rightLength
        | some memory => rfl
      by_cases equal : left.elements = right.elements <;>
        simp [equals, run_object here, run_object there, same, ← sizes, empty, leftSome, rightSome,
          equal]
  · have differ : left.elements ≠ right.elements := by
      intro equal
      rw [equal, rightLength] at leftLength
      exact sizes leftLength.symm
    simp [equals, run_object here, run_object there, same, sizes, differ]

theorem equals_equivalence {objects : Objects T} (wellFormed : objects.WellFormed) :
    Equivalence fun this other : { id // (objects id).isSome } =>
      (equals this.val other.val).run objects = .ok true objects := by
  have equal (this other : { id // (objects id).isSome }) :
      (equals this.val other.val).run objects = .ok true objects ↔
        (objects this.val).map elements = (objects other.val).map elements := by
    obtain ⟨left, here⟩ := Option.isSome_iff_exists.mp this.property
    obtain ⟨right, there⟩ := Option.isSome_iff_exists.mp other.property
    rw [run_equals wellFormed here there, here, there]
    simp
  simp only [equal]
  exact ⟨fun _ => rfl, Eq.symm, Eq.trans⟩

theorem never_compares (objects : Objects T) (this other : Nat) :
    ¬ Compares objects this other := by
  rintro ⟨equal, -, -, depth, returned⟩
  rw [run_notEquals] at returned
  cases returned

/-- Two buffers that differ, as `operator==` says. -/
theorem inequality_never_returns :
    ∃ objects : Objects Nat,
      Runs.exec Op.step (fun _ => none) [.ofCopy 0 [1], .ofCopy 1 [2]] = some objects ∧
      (equals 0 1).run objects = .ok false objects ∧ ¬ Compares objects 0 1 := by
  refine ⟨_, rfl, rfl, ?_⟩
  rintro ⟨equal, -, -, depth, returned⟩
  rw [run_notEquals] at returned
  cases returned

end Buffer

end TestReactor
