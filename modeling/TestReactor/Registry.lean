import Mathlib.Data.List.Nodup

namespace TestReactor

/-! Registries: for each key a list of values, none of them twice. -/

abbrev Registry (κ α : Type) := κ → List α

namespace Registry

variable {κ α : Type} [DecidableEq κ]

def put (registry : Registry κ α) (key : κ) (values : List α) : Registry κ α :=
  fun other => if other = key then values else registry other

@[simp] theorem put_self (registry : Registry κ α) (key : κ) (values : List α) :
    registry.put key values key = values := if_pos rfl

theorem put_of_ne {key other : κ} (different : other ≠ key) (registry : Registry κ α)
    (values : List α) : registry.put key values other = registry other := if_neg different

theorem eq_put {first second : Registry κ α} {key : κ} {values : List α}
    (at_key : first key = values) (elsewhere : ∀ other, other ≠ key → first other = second other) :
    first = second.put key values := by
  funext other
  by_cases same : other = key
  · rw [same, put_self, at_key]
  · rw [put_of_ne same, elsewhere other same]

def Distinct (registry : Registry κ α) : Prop := ∀ key, (registry key).Nodup

theorem Distinct.put {registry : Registry κ α} (distinct : registry.Distinct) (key : κ)
    {values : List α} (nodup : values.Nodup) : (registry.put key values).Distinct := by
  intro other
  by_cases same : other = key
  · rwa [same, put_self]
  · rw [put_of_ne same]
    exact distinct other

variable [DecidableEq α]

def add (registry : Registry κ α) (key : κ) (value : α) : Registry κ α :=
  if value ∈ registry key then registry else registry.put key (registry key ++ [value])

def remove (registry : Registry κ α) (key : κ) (value : α) : Registry κ α :=
  registry.put key ((registry key).erase value)

variable {registry : Registry κ α} {key other : κ} {value another : α}

theorem Distinct.add (distinct : registry.Distinct) (key : κ) (value : α) :
    (registry.add key value).Distinct := by
  unfold Registry.add
  split
  case isTrue => exact distinct
  case isFalse absent =>
    apply distinct.put key
    rw [List.nodup_append]
    refine ⟨distinct key, List.nodup_singleton value, ?_⟩
    rintro first member second single rfl
    rw [List.mem_singleton.mp single] at member
    exact absent member

theorem Distinct.remove (distinct : registry.Distinct) (key : κ) (value : α) :
    (registry.remove key value).Distinct :=
  distinct.put key ((distinct key).erase value)

theorem mem_add (member : another ∈ registry.add key value other) :
    another ∈ registry other ∨ other = key ∧ another = value := by
  unfold add at member
  split at member
  · exact .inl member
  · by_cases same : other = key
    · rw [same, put_self, List.mem_append, List.mem_singleton] at member
      rw [same]
      exact member.imp_right fun new => ⟨rfl, new⟩
    · rw [put_of_ne same] at member
      exact .inl member

theorem subset_add : registry other ⊆ registry.add key value other := by
  intro another member
  unfold add
  split
  · exact member
  · by_cases same : other = key
    · rw [same] at member
      rw [same, put_self]
      exact List.mem_append_left _ member
    · rwa [put_of_ne same]

theorem mem_add_self : value ∈ registry.add key value key := by
  unfold add
  split
  case isTrue member => exact member
  case isFalse => simp

theorem mem_of_mem_remove (member : another ∈ registry.remove key value other) :
    another ∈ registry other := by
  unfold remove at member
  by_cases same : other = key
  · rw [same, put_self] at member
    rw [same]
    exact List.mem_of_mem_erase member
  · rwa [put_of_ne same] at member

theorem add_of_ne (different : other ≠ key) :
    registry.add key value other = registry other := by
  unfold add
  split
  · rfl
  · exact put_of_ne different registry _

theorem remove_of_ne (different : other ≠ key) :
    registry.remove key value other = registry other := put_of_ne different registry _

theorem mem_add_of_ne (different : another ≠ value) :
    another ∈ registry.add key value other ↔ another ∈ registry other := by
  constructor
  · intro member
    exact (mem_add member).resolve_right fun new => different new.2
  · intro member
    exact subset_add member

theorem mem_remove_of_ne (different : another ≠ value) :
    another ∈ registry.remove key value other ↔ another ∈ registry other := by
  unfold remove
  by_cases same : other = key
  · rw [same, put_self, List.mem_erase_of_ne different]
  · rw [put_of_ne same]

theorem not_mem_remove (distinct : registry.Distinct) : value ∉ registry.remove key value key := by
  rw [remove, put_self]
  exact (distinct key).not_mem_erase

theorem remove_of_not_mem (absent : value ∉ registry key) :
    registry.remove key value = registry := by
  symm
  apply eq_put
  · exact (List.erase_of_not_mem absent).symm
  · exact fun _ _ => rfl

theorem mem_add_iff :
    another ∈ registry.add key value other ↔
      another ∈ registry other ∨ other = key ∧ another = value := by
  constructor
  · exact mem_add
  · rintro (member | ⟨rfl, rfl⟩)
    · exact subset_add member
    · exact mem_add_self

theorem mem_remove_iff (distinct : registry.Distinct) :
    another ∈ registry.remove key value other ↔
      another ∈ registry other ∧ ¬ (other = key ∧ another = value) := by
  constructor
  · intro member
    refine ⟨mem_of_mem_remove member, ?_⟩
    rintro ⟨rfl, rfl⟩
    exact not_mem_remove distinct member
  · rintro ⟨member, apart⟩
    by_cases same : other = key
    · rw [mem_remove_of_ne fun equal => apart ⟨same, equal⟩]
      exact member
    · rwa [remove_of_ne same]

inductive Update (κ α : Type) where
  | add (key : κ) (value : α)
  | remove (key : κ) (value : α)

def Update.subject : Update κ α → α
  | .add _ value => value
  | .remove _ value => value

def Update.apply (registry : Registry κ α) : Update κ α → Registry κ α
  | .add key value => registry.add key value
  | .remove key value => registry.remove key value

/-- Whether `value` is registered under `key` behind a change, when `held` tells whether it
was before. -/
def Update.leaves (key : κ) (value : α) (held : Bool) : Update κ α → Bool
  | .add other another => held || decide (key = other ∧ value = another)
  | .remove other another => held && !decide (key = other ∧ value = another)

theorem Distinct.apply (distinct : registry.Distinct) (update : Update κ α) :
    (update.apply registry).Distinct := by
  cases update with
  | add key value => exact distinct.add key value
  | remove key value => exact distinct.remove key value

theorem mem_apply (distinct : registry.Distinct) (update : Update κ α) (key : κ) (value : α) :
    decide (value ∈ update.apply registry key) =
      update.leaves key value (decide (value ∈ registry key)) := by
  rw [Bool.eq_iff_iff, decide_eq_true_iff]
  cases update with
  | add other another => simp [Update.apply, Update.leaves, mem_add_iff]
  | remove other another =>
      simp [Update.apply, Update.leaves, mem_remove_iff distinct, imp_iff_not_or]

theorem mem_apply_of_ne {update : Update κ α} (different : another ≠ update.subject) :
    another ∈ update.apply registry key ↔ another ∈ registry key := by
  cases update with
  | add other value => exact mem_add_of_ne different
  | remove other value => exact mem_remove_of_ne different

theorem mem_foldl_apply (distinct : registry.Distinct) (updates : List (Update κ α)) (key : κ)
    (value : α) :
    decide (value ∈ updates.foldl Update.apply registry key) =
      updates.foldl (Update.leaves key value) (decide (value ∈ registry key)) := by
  induction updates generalizing registry with
  | nil => rfl
  | cons update rest ih =>
      rw [List.foldl_cons, ih (distinct.apply update), mem_apply distinct, List.foldl_cons]

end Registry

/-- Where values are looked up by number, the first number whose value meets a condition
goes from the list of numbers as the first such value goes from that of the values. -/
theorem map_erase_of_find_meets {ids : List Nat} {id : Nat} {values : Nat → α}
    {meets : α → Bool} (found : ids.find? (fun id => meets (values id)) = some id) :
    (ids.erase id).map values = (ids.map values).eraseP meets := by
  induction ids with
  | nil => contradiction
  | cons head rest ih =>
      by_cases first : meets (values head)
      · rw [List.find?_cons_of_pos (by exact first)] at found
        cases found
        rw [List.erase_cons_head, List.map_cons, List.eraseP_cons_of_pos first]
      · rw [List.find?_cons_of_neg (by exact first)] at found
        have own : meets (values id) := by simpa using List.find?_some found
        have later : (head == id) = false := by
          rw [beq_eq_false_iff_ne]
          rintro rfl
          exact first own
        rw [List.erase_cons_tail (by simp [later]), List.map_cons, List.map_cons,
          List.eraseP_cons_of_neg first, ih found]

theorem map_erase_of_find [DecidableEq α] {ids : List Nat} {id : Nat} {values : Nat → α}
    {value : α} (found : ids.find? (fun id => value == values id) = some id) :
    (ids.erase id).map values = (ids.map values).erase value := by
  rw [List.erase_eq_eraseP value]
  exact map_erase_of_find_meets found

end TestReactor
