namespace TestReactor

/-! Edits of a list that someone else walks a copy of: a value is appended, or the first
value equal to a given one is taken out. -/

inductive Edit (α : Type) where
  | add (value : α)
  | remove (value : α)
  deriving DecidableEq, Repr

namespace Edit

variable {α τ : Type} [BEq α]

def apply (values : List α) : Edit α → List α
  | .add value => values ++ [value]
  | .remove value => values.erase value

/-- The same, with equal values told apart: those of the copy carry a tag, those that are
appended later carry none. -/
def applyTagged (entries : List (Option τ × α)) : Edit α → List (Option τ × α)
  | .add value => entries ++ [(none, value)]
  | .remove value => entries.eraseP fun entry => value == entry.2

theorem map_snd_applyTagged [LawfulBEq α] (entries : List (Option τ × α)) (edit : Edit α) :
    (applyTagged entries edit).map Prod.snd = apply (entries.map Prod.snd) edit := by
  cases edit with
  | add value => simp [applyTagged, apply]
  | remove value =>
      rw [applyTagged, apply, List.erase_eq_eraseP, List.eraseP_map]
      rfl

/-- The tags are for telling equal values apart only. -/
theorem map_snd_foldl [LawfulBEq α] (entries : List (Option τ × α)) (edits : List (Edit α)) :
    (edits.foldl applyTagged entries).map Prod.snd =
      edits.foldl apply (entries.map Prod.snd) := by
  induction edits generalizing entries with
  | nil => rfl
  | cons edit rest ih => rw [List.foldl_cons, ih, map_snd_applyTagged, List.foldl_cons]

end Edit

end TestReactor
