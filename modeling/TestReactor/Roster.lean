import Mathlib.Data.List.Nodup
import Mathlib.Logic.Function.Basic

namespace TestReactor

/-! A list that is found through an entry, and threads that enter values in it or strike
them out.  A thread looks the entry up first, and works on the list that it led to then;
whoever strikes out a value that stands alone takes the entry away before. -/

/-- The lists made so far, by number, and the entry, which leads to one of them. -/
structure Roster (α : Type) where
  made : Nat
  entry : Option Nat
  lists : Nat → List α

namespace Roster

open Function (update)

inductive Errand (α : Type) where
  | join (value : α)
  | leave (value : α)

/-- How far a thread is.  The number is that of the list that the entry led it to; `closed`
tells that it has taken the entry away. -/
inductive Place where
  | start
  | found (n : Nat)
  | absent (n : Nat)
  | listed (n : Nat)
  | last (n : Nat)
  | leaving (n : Nat) (closed : Bool)
  | done
  deriving DecidableEq, Repr

variable {α : Type}

def Errand.value : Errand α → α
  | .join value => value
  | .leave value => value

/-- From here on the roster shows what the errand was for. -/
def Place.past : Place → Bool
  | .leaving _ true => true
  | .done => true
  | _ => false

/-- The number of the list that a thread may still enter its value in. -/
def Place.number : Place → Option Nat
  | .found n => some n
  | .absent n => some n
  | _ => none

def members (roster : Roster α) : List α :=
  match roster.entry with
  | some n => roster.lists n
  | none => []

def opened (roster : Roster α) : Roster α where
  made := roster.made + 1
  entry := some roster.made
  lists := update roster.lists roster.made []

def withList (roster : Roster α) (n : Nat) (values : List α) : Roster α :=
  { roster with lists := update roster.lists n values }

def closed (roster : Roster α) : Roster α := { roster with entry := none }

inductive Moves [DecidableEq α] (roster : Roster α) :
    Errand α → Place → Roster α → Place → Prop where
  | finds (errand : Errand α) (n : Nat) (found : roster.entry = some n) :
      Moves roster errand .start roster (.found n)
  | opens (value : α) (absent : roster.entry = none) :
      Moves roster (.join value) .start roster.opened (.found roster.made)
  | misses (value : α) (absent : roster.entry = none) :
      Moves roster (.leave value) .start roster .done
  | known (value : α) (n : Nat) (member : value ∈ roster.lists n) :
      Moves roster (.join value) (.found n) roster .done
  | unknown (value : α) (n : Nat) (absent : value ∉ roster.lists n) :
      Moves roster (.join value) (.found n) roster (.absent n)
  | joins (value : α) (n : Nat) :
      Moves roster (.join value) (.absent n)
        (roster.withList n (roster.lists n ++ [value])) .done
  | listed (value : α) (n : Nat) (member : value ∈ roster.lists n) :
      Moves roster (.leave value) (.found n) roster (.listed n)
  | unlisted (value : α) (n : Nat) (absent : value ∉ roster.lists n) :
      Moves roster (.leave value) (.found n) roster .done
  | alone (value : α) (n : Nat) (single : (roster.lists n).length = 1) :
      Moves roster (.leave value) (.listed n) roster (.last n)
  | among (value : α) (n : Nat) (several : (roster.lists n).length ≠ 1) :
      Moves roster (.leave value) (.listed n) roster (.leaving n false)
  | closes (value : α) (n : Nat) :
      Moves roster (.leave value) (.last n) roster.closed (.leaving n true)
  | leaves (value : α) (n : Nat) (closed : Bool) :
      Moves roster (.leave value) (.leaving n closed)
        (roster.withList n ((roster.lists n).erase value)) .done
  | quits (value : α) (n : Nat) :
      Moves roster (.leave value) (.leaving n true) roster .done

section Members

variable {roster : Roster α} {n : Nat}

theorem members_found (found : roster.entry = some n) : roster.members = roster.lists n := by
  simp only [members, found]

theorem members_absent (absent : roster.entry = none) : roster.members = [] := by
  simp only [members, absent]

@[simp] theorem members_opened (roster : Roster α) : roster.opened.members = [] := by
  simp [members, opened]

@[simp] theorem members_closed (roster : Roster α) : roster.closed.members = [] := rfl

theorem members_withList_self (found : roster.entry = some n) (values : List α) :
    (roster.withList n values).members = values := by
  simp [members, withList, found]

theorem members_withList_of_ne (other : roster.entry ≠ some n) (values : List α) :
    (roster.withList n values).members = roster.members := by
  cases found : roster.entry with
  | none => simp [members, withList, found]
  | some m =>
      have different : m ≠ n := by
        rintro rfl
        exact other found
      simp [members, withList, found, different]

theorem withList_self (roster : Roster α) (n : Nat) :
    roster.withList n (roster.lists n) = roster := by
  simp [withList]

end Members

/-- What the place of a thread says about the roster. -/
def Fits (roster : Roster α) : Errand α → Place → Prop
  | _, .start => True
  | errand, .found n => n < roster.made ∧
      (roster.entry = some n ∨ errand.value ∉ roster.lists n ∧ errand.value ∉ roster.members)
  | .join value, .absent n => n < roster.made ∧ value ∉ roster.members
  | .leave value, .listed n => roster.entry = some n ∧ value ∈ roster.lists n
  | .leave value, .last n => roster.entry = some n ∧ roster.lists n = [value]
  | .leave value, .leaving n false => roster.entry = some n ∧ value ∈ roster.lists n
  | .leave _, .leaving n true => n < roster.made ∧ roster.entry ≠ some n
  | _, .done => True
  | _, _ => False

theorem fits_found {roster : Roster α} {errand : Errand α} {n : Nat} :
    roster.Fits errand (.found n) ↔ n < roster.made ∧
      (roster.entry = some n ∨
        errand.value ∉ roster.lists n ∧ errand.value ∉ roster.members) := by
  cases errand <;> rfl

def Stands (initial : List α) : Errand α → Place → Prop
  | .join value, place => place.past = true ∨ value ∈ initial
  | .leave value, place => value ∈ initial ∧ place.past = false

/-! What a change leaves of the places of the other threads. -/

section Fits

variable {roster : Roster α} {another : Errand α} {elsewhere : Place} {n : Nat} {value : α}

theorem Fits.opened (fits : roster.Fits another elsewhere) (absent : roster.entry = none) :
    roster.opened.Fits another elsewhere := by
  have old : ∀ m, m < roster.made → roster.opened.lists m = roster.lists m := by
    intro m made
    exact Function.update_of_ne (Nat.ne_of_lt made) [] roster.lists
  cases elsewhere with
  | start => trivial
  | done => cases another <;> trivial
  | found m =>
      rw [fits_found] at fits ⊢
      obtain ⟨made, place⟩ := fits
      have outside := place.resolve_left (by simp [absent])
      exact ⟨Nat.lt_succ_of_lt made, .inr ⟨(old m made).symm ▸ outside.1, by simp⟩⟩
  | absent m =>
      cases another with
      | join other => exact ⟨Nat.lt_succ_of_lt fits.1, by simp⟩
      | leave other => exact fits
  | listed m =>
      cases another with
      | join other => exact fits
      | leave other => exact absurd (absent.symm.trans fits.1) (by simp)
  | last m =>
      cases another with
      | join other => exact fits
      | leave other => exact absurd (absent.symm.trans fits.1) (by simp)
  | leaving m closed =>
      cases another with
      | join other => cases closed <;> exact fits
      | leave other =>
          cases closed with
          | false => exact absurd (absent.symm.trans fits.1) (by simp)
          | true =>
              refine ⟨Nat.lt_succ_of_lt fits.1, fun same => ?_⟩
              exact Nat.ne_of_lt fits.1 (Option.some.inj same).symm

theorem Fits.withList (fits : roster.Fits another elsewhere) {values : List α}
    (same : another.value ∈ values ↔ another.value ∈ roster.lists n)
    (apart : ∀ other m, another = .leave other → elsewhere = .last m → m ≠ n) :
    (roster.withList n values).Fits another elsewhere := by
  have lists : ∀ m, another.value ∈ (roster.withList n values).lists m ↔
      another.value ∈ roster.lists m := by
    intro m
    by_cases own : m = n
    · subst own
      simpa [Roster.withList] using same
    · simp [Roster.withList, own]
  have members : another.value ∈ (roster.withList n values).members ↔
      another.value ∈ roster.members := by
    by_cases found : roster.entry = some n
    · rw [members_withList_self found, members_found found, same]
    · rw [members_withList_of_ne found]
  cases elsewhere with
  | start => trivial
  | done => cases another <;> trivial
  | found m =>
      rw [fits_found] at fits ⊢
      rw [lists, members]
      exact fits
  | absent m =>
      cases another with
      | join other => exact ⟨fits.1, mt members.mp fits.2⟩
      | leave other => exact fits
  | listed m =>
      cases another with
      | join other => exact fits
      | leave other => exact ⟨fits.1, (lists m).mpr fits.2⟩
  | last m =>
      cases another with
      | join other => exact fits
      | leave other =>
          refine ⟨fits.1, ?_⟩
          rw [← fits.2]
          exact Function.update_of_ne (apart other m rfl rfl) values roster.lists
  | leaving m closed =>
      cases another with
      | join other => cases closed <;> exact fits
      | leave other =>
          cases closed with
          | false => exact ⟨fits.1, (lists m).mpr fits.2⟩
          | true => exact fits

theorem Fits.closed (fits : roster.Fits another elsewhere) (found : roster.entry = some n)
    (single : roster.lists n = [value]) (different : another.value ≠ value) :
    roster.closed.Fits another elsewhere := by
  have outside : ∀ m, roster.entry = some m → another.value ∉ roster.lists m := by
    intro m found'
    cases found.symm.trans found'
    rw [single, List.mem_singleton]
    exact different
  cases elsewhere with
  | start => trivial
  | done => cases another <;> trivial
  | found m =>
      rw [fits_found] at fits ⊢
      refine ⟨fits.1, .inr ⟨?_, by simp⟩⟩
      rcases fits.2 with here | gone
      · exact outside m here
      · exact gone.1
  | absent m =>
      cases another with
      | join other => exact ⟨fits.1, by simp⟩
      | leave other => exact fits
  | listed m =>
      cases another with
      | join other => exact fits
      | leave other => exact absurd fits.2 (outside m fits.1)
  | last m =>
      cases another with
      | join other => exact fits
      | leave other =>
          refine absurd ?_ (outside m fits.1)
          rw [fits.2]
          exact List.mem_singleton_self other
  | leaving m closed =>
      cases another with
      | join other => cases closed <;> exact fits
      | leave other =>
          cases closed with
          | false => exact absurd fits.2 (outside m fits.1)
          | true => exact ⟨fits.1, Option.some_ne_none m ∘ Eq.symm⟩

theorem Fits.closing (fits : roster.Fits another elsewhere) {value : α}
    (different : value ≠ another.value) (n : Nat) (last : elsewhere = .last n) :
    value ∉ roster.members := by
  subst last
  cases another with
  | join own => exact fits.elim
  | leave own =>
      have different : value ≠ own := different
      rw [members_found fits.1, fits.2, List.mem_singleton]
      exact different

end Fits

def Arriving (errand : Errand α) (place : Place) : Prop :=
  (∃ value, errand = .join value) ∧ place.past = false

section Step

variable [DecidableEq α] {roster next : Roster α} {errand : Errand α} {place place' : Place}

theorem Moves.mem_iff (moves : roster.Moves errand place next place') {value : α}
    (different : value ≠ errand.value)
    (closing : ∀ n, place = .last n → value ∉ roster.members) :
    value ∈ next.members ↔ value ∈ roster.members := by
  cases moves with
  | finds | misses | known | unknown | listed | unlisted | alone | among | quits => rfl
  | opens own absent => simp [members_absent absent]
  | joins own n =>
      have different : value ≠ own := different
      by_cases found : roster.entry = some n
      · simp [members_withList_self found, members_found found, different]
      · rw [members_withList_of_ne found]
  | closes own n => exact iff_of_false (by simp) (closing n rfl)
  | leaves own n closed =>
      have different : value ≠ own := different
      by_cases found : roster.entry = some n
      · rw [members_withList_self found, members_found found, List.mem_erase_of_ne different]
      · rw [members_withList_of_ne found]

theorem Moves.stands_iff (moves : roster.Moves errand place next place')
    (fits : roster.Fits errand place) (nodup : roster.members.Nodup)
    (enters : ∀ n, place = .absent n → roster.entry = some n) {initial : List α}
    (stands : errand.value ∈ roster.members ↔ Stands initial errand place) :
    errand.value ∈ next.members ↔ Stands initial errand place' := by
  cases moves with
  | finds errand n found => cases errand <;> exact stands
  | opens value absent =>
      rw [members_absent absent] at stands
      rw [members_opened]
      exact stands
  | misses value absent => simp [Stands, Place.past, members_absent absent]
  | known value n member =>
      have found := fits.2.resolve_right fun outside => outside.1 member
      exact iff_of_true (members_found found ▸ member) (.inl rfl)
  | unknown value n absent => exact stands
  | joins value n =>
      refine iff_of_true ?_ (.inl rfl)
      rw [members_withList_self (enters n rfl)]
      exact List.mem_append_right _ (List.mem_singleton_self value)
  | listed value n member => exact stands
  | unlisted value n absent =>
      refine iff_of_false ?_ (fun impossible => Bool.false_ne_true impossible.2.symm)
      rcases fits.2 with found | outside
      · rw [members_found found]
        exact absent
      · exact outside.2
  | alone value n single => exact stands
  | among value n several => exact stands
  | closes value n =>
      exact iff_of_false (by simp) (fun impossible => Bool.false_ne_true impossible.2.symm)
  | leaves value n closed =>
      cases closed with
      | false =>
          refine iff_of_false ?_ (fun impossible => Bool.false_ne_true impossible.2.symm)
          rw [members_withList_self fits.1]
          rw [members_found fits.1] at nodup
          exact nodup.not_mem_erase
      | true =>
          rw [members_withList_of_ne fits.2]
          exact stands
  | quits value n => exact stands

theorem Moves.fits (moves : roster.Moves errand place next place')
    (made : ∀ n, roster.entry = some n → n < roster.made) (fits : roster.Fits errand place) :
    next.Fits errand place' := by
  cases moves with
  | finds errand n found => cases errand <;> exact ⟨made n found, .inl found⟩
  | opens value absent => exact ⟨Nat.lt_succ_self _, .inl rfl⟩
  | misses => trivial
  | known => trivial
  | unknown value n absent =>
      refine ⟨fits.1, ?_⟩
      rcases fits.2 with found | outside
      · rw [members_found found]
        exact absent
      · exact outside.2
  | joins => trivial
  | listed value n member =>
      exact ⟨fits.2.resolve_right fun outside => outside.1 member, member⟩
  | unlisted => trivial
  | alone value n single =>
      obtain ⟨found, member⟩ := fits
      obtain ⟨only, same⟩ := List.length_eq_one_iff.mp single
      rw [same, List.mem_singleton] at member
      exact ⟨found, member ▸ same⟩
  | among => exact fits
  | closes value n => exact ⟨made n fits.1, Option.some_ne_none n ∘ Eq.symm⟩
  | leaves => trivial
  | quits => trivial

variable {another : Errand α} {elsewhere : Place}

theorem Moves.fits_other (moves : roster.Moves errand place next place')
    (fits : roster.Fits errand place) (different : another.value ≠ errand.value)
    (enters : ∀ n, place = .absent n → ∀ m, elsewhere ≠ .last m)
    (others : roster.Fits another elsewhere) : next.Fits another elsewhere := by
  cases moves with
  | finds | misses | known | unknown | listed | unlisted | alone | among | quits => exact others
  | opens value absent => exact others.opened absent
  | joins value n =>
      apply others.withList
      · have different : another.value ≠ value := different
        simp [different]
      · intro other m _ last
        exact absurd last (enters n rfl m)
  | closes value n => exact others.closed fits.1 fits.2 different
  | leaves value n closed =>
      have different : another.value ≠ value := different
      apply others.withList
      · exact List.mem_erase_of_ne different
      · rintro other m rfl rfl rfl
        obtain ⟨found, single⟩ := others
        cases closed with
        | false =>
            have member := fits.2
            rw [single, List.mem_singleton] at member
            exact different member.symm
        | true => exact fits.2 found

theorem Moves.nodup (moves : roster.Moves errand place next place')
    (fits : roster.Fits errand place) (nodup : roster.members.Nodup) : next.members.Nodup := by
  cases moves with
  | finds | misses | known | unknown | listed | unlisted | alone | among | quits => exact nodup
  | opens value absent => simp
  | joins value n =>
      by_cases found : roster.entry = some n
      · have absent := fits.2
        rw [members_found found] at absent nodup
        rw [members_withList_self found]
        exact List.nodup_append.mpr ⟨nodup, List.nodup_singleton value, by
          rintro other member _ single rfl
          rw [List.mem_singleton.mp single] at member
          exact absent member⟩
      · rw [members_withList_of_ne found]
        exact nodup
  | closes value n => simp
  | leaves value n closed =>
      by_cases found : roster.entry = some n
      · rw [members_found found] at nodup
        rw [members_withList_self found]
        exact nodup.erase value
      · rw [members_withList_of_ne found]
        exact nodup

theorem Moves.made (moves : roster.Moves errand place next place')
    (made : ∀ n, roster.entry = some n → n < roster.made) :
    ∀ n, next.entry = some n → n < next.made := by
  cases moves with
  | opens value absent =>
      intro n found
      cases found
      exact Nat.lt_succ_self _
  | closes value n =>
      intro m found
      cases found
  | _ => exact made

theorem Moves.number (moves : roster.Moves errand place next place')
    (made : ∀ n, roster.entry = some n → n < roster.made)
    (numbered : ∀ n, place.number = some n → n < roster.made) :
    roster.made ≤ next.made ∧ ∀ n, place'.number = some n → n < next.made := by
  cases moves with
  | finds errand n found =>
      refine ⟨Nat.le_refl _, ?_⟩
      rintro m ⟨rfl⟩
      exact made n found
  | opens value absent =>
      refine ⟨Nat.le_succ _, ?_⟩
      rintro m ⟨rfl⟩
      exact Nat.lt_succ_self _
  | unknown value n absent => exact ⟨Nat.le_refl _, numbered⟩
  | _ =>
      refine ⟨Nat.le_refl _, ?_⟩
      rintro m ⟨⟩

theorem Moves.occupied (moves : roster.Moves errand place next place')
    (fits : roster.Fits errand place) (enters : ∀ n, place = .absent n → roster.entry = some n)
    (somebody : Prop)
    (strikes : ∀ n, place = .leaving n false → roster.lists n = [errand.value] → somebody)
    (occupied : roster.entry ≠ none → roster.members = [] → Arriving errand place ∨ somebody)
    (remains : next.entry ≠ none) (empty : next.members = []) :
    Arriving errand place' ∨ somebody := by
  have leaves (value : α) (place : Place) : ¬ Arriving (.leave value) place := by
    rintro ⟨⟨_, impossible⟩, _⟩
    contradiction
  cases moves with
  | finds errand n found => exact occupied remains empty
  | opens value absent => exact .inl ⟨⟨value, rfl⟩, rfl⟩
  | misses value absent => contradiction
  | known value n member =>
      have found := fits.2.resolve_right fun outside => outside.1 member
      rw [← members_found found, empty] at member
      contradiction
  | unknown value n absent => exact occupied remains empty
  | joins value n =>
      rw [members_withList_self (enters n rfl)] at empty
      simp at empty
  | listed | unlisted | alone | among | quits =>
      exact .inr ((occupied remains empty).resolve_left (leaves _ _))
  | closes value n => contradiction
  | leaves value n closed =>
      cases closed with
      | false =>
          obtain ⟨found, member⟩ := fits
          rw [members_withList_self found] at empty
          refine .inr (strikes n rfl ?_)
          have single := List.length_erase_of_mem member
          rw [empty, List.length_nil] at single
          have positive := List.length_pos_of_mem member
          obtain ⟨only, same⟩ := List.length_eq_one_iff.mp (by omega : (roster.lists n).length = 1)
          rw [same, List.mem_singleton] at member
          rw [same, member]
          rfl
      | true =>
          rw [members_withList_of_ne fits.2] at empty
          exact .inr ((occupied remains empty).resolve_left (leaves _ _))

end Step

end Roster

end TestReactor
