namespace TestReactor

/-! The table of open descriptors.  Openings are numbered, so that a descriptor
that is given out again can be told from its earlier use. -/

structure Descriptors where
  denotes : Int → Option Nat
  openings : Nat

namespace Descriptors

def empty : Descriptors where
  denotes := fun _ => none
  openings := 0

/-- The descriptors that the kernel may give out: those not in use. -/
def Free (descriptors : Descriptors) (fd : Int) : Prop :=
  0 ≤ fd ∧ descriptors.denotes fd = none

instance (descriptors : Descriptors) (fd : Int) : Decidable (descriptors.Free fd) :=
  inferInstanceAs (Decidable (_ ∧ _))

def grant (descriptors : Descriptors) (fd : Int) : Descriptors where
  denotes := fun other =>
    if other = fd then some descriptors.openings else descriptors.denotes other
  openings := descriptors.openings + 1

def close (descriptors : Descriptors) (fd : Int) : Descriptors where
  denotes := fun other => if other = fd then none else descriptors.denotes other
  openings := descriptors.openings

variable {descriptors : Descriptors} {fd other : Int}

@[simp] theorem denotes_grant_self :
    (descriptors.grant fd).denotes fd = some descriptors.openings := if_pos rfl

theorem denotes_grant_of_denotes {opening : Nat} (free : descriptors.Free fd)
    (denotes : descriptors.denotes other = some opening) :
    (descriptors.grant fd).denotes other = some opening := by
  have different : other ≠ fd := by
    rintro rfl
    rw [free.2] at denotes
    contradiction
  exact (if_neg different).trans denotes

@[simp] theorem denotes_close_self : (descriptors.close fd).denotes fd = none := if_pos rfl

theorem denotes_close_of_ne (different : other ≠ fd) :
    (descriptors.close fd).denotes other = descriptors.denotes other := if_neg different

/-! What becomes of one opening. -/

/-- No descriptor denotes an opening that is still to come. -/
def Dated (descriptors : Descriptors) : Prop :=
  ∀ fd opening, descriptors.denotes fd = some opening → opening < descriptors.openings

/-- The table as it may be some time after: an opening is not given out a second time. -/
structure Later (descriptors next : Descriptors) : Prop where
  openings : descriptors.openings ≤ next.openings
  denotes : ∀ fd opening, opening < descriptors.openings → next.denotes fd = some opening →
    descriptors.denotes fd = some opening
  dated : descriptors.Dated → next.Dated

/-- An opening that there has been, and that only `fd` can still denote. -/
structure Confined (descriptors : Descriptors) (opening : Nat) (fd : Int) : Prop where
  past : opening < descriptors.openings
  only : ∀ other, descriptors.denotes other = some opening → other = fd

/-- An opening that there has been, and that no descriptor denotes any more. -/
structure Lost (descriptors : Descriptors) (opening : Nat) : Prop where
  past : opening < descriptors.openings
  gone : ∀ fd, descriptors.denotes fd ≠ some opening

variable {next last : Descriptors} {opening : Nat}

theorem denotes_of_grant (denotes : (descriptors.grant fd).denotes other = some opening) :
    opening = descriptors.openings ∧ other = fd ∨
      other ≠ fd ∧ descriptors.denotes other = some opening := by
  by_cases same : other = fd
  · rw [same, denotes_grant_self, Option.some.injEq] at denotes
    exact .inl ⟨denotes.symm, same⟩
  · exact .inr ⟨same, (if_neg same).symm.trans denotes⟩

theorem denotes_of_close (denotes : (descriptors.close fd).denotes other = some opening) :
    other ≠ fd ∧ descriptors.denotes other = some opening := by
  by_cases same : other = fd
  · rw [same, denotes_close_self] at denotes
    contradiction
  · rw [denotes_close_of_ne same] at denotes
    exact ⟨same, denotes⟩

theorem Later.refl (descriptors : Descriptors) : descriptors.Later descriptors :=
  ⟨Nat.le_refl _, fun _ _ _ denotes => denotes, id⟩

theorem Later.trans (first : descriptors.Later next) (second : next.Later last) :
    descriptors.Later last where
  openings := Nat.le_trans first.openings second.openings
  denotes fd opening past denotes :=
    first.denotes fd opening past
      (second.denotes fd opening (Nat.lt_of_lt_of_le past first.openings) denotes)
  dated := second.dated ∘ first.dated

theorem later_grant (descriptors : Descriptors) (fd : Int) :
    descriptors.Later (descriptors.grant fd) where
  openings := Nat.le_succ _
  denotes other opening past denotes := by
    rcases denotes_of_grant denotes with ⟨new, -⟩ | ⟨-, before⟩
    · omega
    · exact before
  dated dated other opening denotes := by
    rcases denotes_of_grant denotes with ⟨new, -⟩ | ⟨-, before⟩
    · exact Nat.lt_succ_of_le (Nat.le_of_eq new)
    · exact Nat.lt_succ_of_lt (dated other opening before)

theorem later_close (descriptors : Descriptors) (fd : Int) :
    descriptors.Later (descriptors.close fd) where
  openings := Nat.le_refl _
  denotes _ _ _ denotes := (denotes_of_close denotes).2
  dated dated other opening denotes := dated other opening (denotes_of_close denotes).2

theorem Confined.later (confined : descriptors.Confined opening fd)
    (later : descriptors.Later next) : next.Confined opening fd where
  past := Nat.lt_of_lt_of_le confined.past later.openings
  only other denotes := confined.only other (later.denotes other opening confined.past denotes)

theorem Lost.later (lost : descriptors.Lost opening) (later : descriptors.Later next) :
    next.Lost opening where
  past := Nat.lt_of_lt_of_le lost.past later.openings
  gone fd denotes := lost.gone fd (later.denotes fd opening lost.past denotes)

theorem Dated.confined_grant (dated : descriptors.Dated) (fd : Int) :
    (descriptors.grant fd).Confined descriptors.openings fd where
  past := Nat.lt_succ_self _
  only other denotes := by
    rcases denotes_of_grant denotes with ⟨-, same⟩ | ⟨-, before⟩
    · exact same
    · exact absurd (dated other _ before) (Nat.lt_irrefl _)

theorem Confined.lost_close (confined : descriptors.Confined opening fd) :
    (descriptors.close fd).Lost opening where
  past := confined.past
  gone other denotes := by
    obtain ⟨different, before⟩ := denotes_of_close denotes
    exact different (confined.only other before)

end Descriptors

end TestReactor
