namespace TestReactor

/-! A list of members, and beside it a multiset of marks that is to tell which keys some
member accepts.  Each member is counted under one mark at most, whatever it accepts. -/

structure Census (α κ : Type) where
  members : List α
  marks : List κ

namespace Census

variable {α κ : Type}

section

variable (mark : α → Option κ) (accepts : α → κ → Bool) (keys : List κ)

/-- A key is marked when a member accepts it, and only then. -/
def Truthful (census : Census α κ) : Prop :=
  ∀ key ∈ keys, key ∈ census.marks ↔ ∃ member ∈ census.members, accepts member key

/-- What `member` accepts besides its own mark, others accept too. -/
def Covered (others : List α) (member : α) : Prop :=
  ∀ key ∈ keys, accepts member key → mark member ≠ some key →
    ∃ other ∈ others, accepts other key

def enter (census : Census α κ) (member : α) : Census α κ where
  members := census.members ++ [member]
  marks :=
    match mark member with
    | some key => key :: census.marks
    | none => census.marks

variable [BEq α] [BEq κ]

/-- Without a member.  Its mark goes whether or not it was on the list. -/
def strike (census : Census α κ) (member : α) : Census α κ where
  members := census.members.erase member
  marks :=
    match mark member with
    | some key => census.marks.erase key
    | none => census.marks

/-- The mark of a member can go: of a listed one, when a mark is left exactly if another
member needs it; of any other, when it is not the last. -/
def Dispensable [LawfulBEq α] (census : Census α κ) (member : α) : Prop :=
  if member ∈ census.members then
    Covered mark accepts keys (census.members.erase member) member ∧
      ∀ key ∈ keys, mark member = some key →
        (1 < census.marks.count key ↔
          ∃ other ∈ census.members.erase member, accepts other key)
  else ∀ key ∈ keys, mark member = some key → census.marks.count key ≠ 1

end

variable {mark : α → Option κ} {accepts : α → κ → Bool} {keys : List κ}
variable {census : Census α κ} {member : α} {key : κ}

theorem mem_marks_enter :
    key ∈ (census.enter mark member).marks ↔ mark member = some key ∨ key ∈ census.marks := by
  unfold enter
  cases mark member with
  | none => simp
  | some own => simp [eq_comm]

/-- The census tells the truth about a new member when the others cover it. -/
theorem truthful_enter_iff (sound : ∀ key, mark member = some key → accepts member key)
    (truthful : census.Truthful accepts keys) :
    (census.enter mark member).Truthful accepts keys ↔
      Covered mark accepts keys census.members member := by
  have accepted : ∀ key, (∃ other ∈ (census.enter mark member).members, accepts other key) ↔
      accepts member key ∨ ∃ other ∈ census.members, accepts other key := by
    intro key
    simp [enter, or_and_right, exists_or, or_comm]
  refine forall₂_congr fun key known => ?_
  rw [mem_marks_enter, accepted, truthful key known]
  by_cases own : mark member = some key
  · exact iff_of_true ⟨fun _ => .inl (sound key own), fun _ => .inl own⟩
      fun _ other => absurd own other
  · constructor
    · intro told takes _
      exact (told.mpr (.inl takes)).resolve_left own
    · intro covered
      refine ⟨fun marked => .inr (marked.resolve_left own), ?_⟩
      rintro (takes | others)
      · exact .inr (covered takes own)
      · exact .inr others

theorem accepted_erase [BEq α] [LawfulBEq α] (refuses : ¬ accepts member key) :
    (∃ other ∈ census.members.erase member, accepts other key) ↔
      ∃ other ∈ census.members, accepts other key := by
  constructor
  · rintro ⟨other, listed, takes⟩
    exact ⟨other, List.mem_of_mem_erase listed, takes⟩
  · rintro ⟨other, listed, takes⟩
    have different : other ≠ member := by
      rintro rfl
      exact refuses takes
    exact ⟨other, (List.mem_erase_of_ne different).mpr listed, takes⟩

variable [BEq α] [BEq κ] [LawfulBEq κ]

theorem mem_marks_strike_self (own : mark member = some key) :
    key ∈ (census.strike mark member).marks ↔ 1 < census.marks.count key := by
  simp only [strike, own, ← List.count_pos_iff, List.count_erase_self]
  omega

theorem mem_marks_strike_of_ne (other : mark member ≠ some key) :
    key ∈ (census.strike mark member).marks ↔ key ∈ census.marks := by
  unfold strike
  cases marked : mark member with
  | none => rfl
  | some own =>
      have different : key ≠ own := by
        rintro rfl
        exact other marked
      exact List.mem_erase_of_ne different

variable [LawfulBEq α]

theorem truthful_strike_listed_iff
    (truthful : census.Truthful accepts keys) (listed : member ∈ census.members) :
    (census.strike mark member).Truthful accepts keys ↔
      Covered mark accepts keys (census.members.erase member) member ∧
        ∀ key ∈ keys, mark member = some key →
          (1 < census.marks.count key ↔
            ∃ other ∈ census.members.erase member, accepts other key) := by
  constructor
  · intro told
    constructor
    · intro key known takes other
      exact (told key known).mp ((mem_marks_strike_of_ne other).mpr
        ((truthful key known).mpr ⟨member, listed, takes⟩))
    · intro key known own
      exact (mem_marks_strike_self own).symm.trans (told key known)
  · rintro ⟨covered, counted⟩ key known
    by_cases own : mark member = some key
    · exact (mem_marks_strike_self own).trans (counted key known own)
    · rw [mem_marks_strike_of_ne own, truthful key known]
      by_cases takes : accepts member key
      · exact iff_of_true ⟨member, listed, takes⟩ (covered key known takes own)
      · exact (accepted_erase takes).symm

theorem truthful_strike_unlisted_iff
    (truthful : census.Truthful accepts keys) (unlisted : member ∉ census.members) :
    (census.strike mark member).Truthful accepts keys ↔
      ∀ key ∈ keys, mark member = some key → census.marks.count key ≠ 1 := by
  have members : (census.strike mark member).members = census.members :=
    List.erase_of_not_mem unlisted
  refine forall₂_congr fun key known => ?_
  rw [members, ← truthful key known]
  by_cases own : mark member = some key
  · rw [mem_marks_strike_self own, ← List.count_pos_iff]
    constructor
    · intro told _
      omega
    · intro several
      have several := several own
      omega
  · rw [mem_marks_strike_of_ne own]
    exact iff_of_true Iff.rfl fun same => absurd same own

theorem truthful_strike_iff (truthful : census.Truthful accepts keys) :
    (census.strike mark member).Truthful accepts keys ↔
      census.Dispensable mark accepts keys member := by
  unfold Dispensable
  split
  case isTrue listed => exact truthful_strike_listed_iff truthful listed
  case isFalse unlisted => exact truthful_strike_unlisted_iff truthful unlisted

end Census

end TestReactor
