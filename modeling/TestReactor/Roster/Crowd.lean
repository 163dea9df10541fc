import TestReactor.Roster
import TestReactor.Threads

namespace TestReactor

namespace Roster

open Function (update)

/-! Any number of threads, each with an errand of its own. -/

variable {α θ : Type}

abbrev Crowd (θ α : Type) := Threads.Pool θ (Roster α) Place

/-- A value is entered where the entry leads, and nobody is about to take the entry away; a
value that is struck out is not the last one, or another is on its way. -/
structure Orderly (errands : θ → Errand α) (crowd : Crowd θ α) (thread : θ) : Prop where
  enters : ∀ n, crowd.control thread = .absent n →
    crowd.shared.entry = some n ∧ ∀ other m, crowd.control other ≠ .last m
  strikes : ∀ n, crowd.control thread = .leaving n false →
    crowd.shared.lists n = [(errands thread).value] →
      ∃ other, Arriving (errands other) (crowd.control other)

structure Tended (errands : θ → Errand α) (initial : List α) (crowd : Crowd θ α) : Prop where
  made : ∀ n, crowd.shared.entry = some n → n < crowd.shared.made
  nodup : crowd.shared.members.Nodup
  fits : ∀ thread, crowd.shared.Fits (errands thread) (crowd.control thread)
  own : ∀ thread, (errands thread).value ∈ crowd.shared.members ↔
    Stands initial (errands thread) (crowd.control thread)
  others : ∀ value, (∀ thread, value ≠ (errands thread).value) →
    (value ∈ crowd.shared.members ↔ value ∈ initial)
  occupied : crowd.shared.entry ≠ none → crowd.shared.members = [] →
    ∃ thread, Arriving (errands thread) (crowd.control thread)

/-- The members are those that were entered, and those of the first that nobody struck out;
there is an entry when there are any. -/
structure Kept (errands : θ → Errand α) (initial : List α) (roster : Roster α) : Prop where
  members : ∀ value, value ∈ roster.members ↔ (∃ thread, errands thread = .join value) ∨
    value ∈ initial ∧ ∀ thread, errands thread ≠ .leave value
  entry : roster.entry ≠ none ↔ ∃ value, (∃ thread, errands thread = .join value) ∨
    value ∈ initial ∧ ∀ thread, errands thread ≠ .leave value

def Lost (errands : θ → Errand α) (crowd : Crowd θ α) : Prop :=
  ∃ thread value, errands thread = .join value ∧ crowd.control thread = .done ∧
    (value ∉ crowd.shared.members ∨ ∃ other n, crowd.control other = .last n)

def Idles (roster : Roster α) (value : α) : Place → Prop
  | .start => True
  | .found n => value ∉ roster.lists n
  | .leaving n closed => closed = true ∧ roster.entry ≠ some n
  | .done => True
  | _ => False

/-- An entry is left without members, and nobody will enter one or take it away. -/
structure Deserted (errands : θ → Errand α) (crowd : Crowd θ α) : Prop where
  entry : crowd.shared.entry ≠ none
  members : crowd.shared.members = []
  joiners : ∀ thread value, errands thread = .join value → crowd.control thread = .done
  leavers : ∀ thread value, errands thread = .leave value →
    crowd.shared.Idles value (crowd.control thread)

theorem Idles.withList_erase [DecidableEq α] {roster : Roster α} {value own : α} {place : Place}
    {n : Nat} (idles : roster.Idles value place) :
    (roster.withList n ((roster.lists n).erase own)).Idles value place := by
  cases place with
  | found m =>
      by_cases same : m = n
      · subst same
        have absent : value ∉ roster.lists m := idles
        simpa [Idles, withList] using mt List.mem_of_mem_erase absent
      · simpa [Idles, withList, same] using idles
  | _ => exact idles

theorem Moves.idles [DecidableEq α] {roster next : Roster α} {value : α} {place place' : Place}
    (moves : roster.Moves (.leave value) place next place') (remains : roster.entry ≠ none)
    (empty : roster.members = []) (idles : roster.Idles value place) :
    next.entry = roster.entry ∧ next.members = [] ∧
      (∀ other elsewhere, roster.Idles other elsewhere → next.Idles other elsewhere) ∧
      next.Idles value place' := by
  cases moves with
  | finds errand n found =>
      refine ⟨rfl, empty, fun _ _ => id, ?_⟩
      rw [Idles, ← members_found found, empty]
      exact List.not_mem_nil
  | misses value absent => exact absurd absent remains
  | listed value n member => exact absurd member idles
  | unlisted value n absent => exact ⟨rfl, empty, fun _ _ => id, trivial⟩
  | alone | among | closes => exact idles.elim
  | leaves value n closed =>
      obtain ⟨rfl, apart⟩ := idles
      refine ⟨rfl, ?_, ?_, trivial⟩
      · rw [members_withList_of_ne apart]
        exact empty
      · intro other elsewhere idles
        exact idles.withList_erase
  | quits value n => exact ⟨rfl, empty, fun _ _ => id, trivial⟩

theorem Fits.idles {roster : Roster α} {value own : α} {place : Place} {n : Nat}
    (fits : roster.Fits (.leave value) place) (found : roster.entry = some n)
    (single : roster.lists n = [own]) (different : value ≠ own) : roster.Idles value place := by
  have outside : ∀ m, roster.entry = some m → value ∉ roster.lists m := by
    intro m found'
    cases found.symm.trans found'
    rw [single, List.mem_singleton]
    exact different
  cases place with
  | start => trivial
  | found m =>
      rcases fits.2 with here | gone
      · exact outside m here
      · exact gone.1
  | absent m => exact fits
  | listed m => exact outside m fits.1 fits.2
  | last m =>
      refine outside m fits.1 ?_
      rw [fits.2]
      exact List.mem_singleton_self value
  | leaving m closed =>
      cases closed with
      | false => exact absurd fits.2 (outside m fits.1)
      | true => exact ⟨rfl, fits.2⟩
  | done => trivial

theorem Fits.done_of_not_arriving {roster : Roster α} {errand : Errand α} {place : Place}
    {value : α} (fits : roster.Fits errand place) (join : errand = .join value)
    (settled : ¬ Arriving errand place) : place = .done := by
  subst join
  cases place with
  | start | found | absent => exact absurd ⟨⟨value, rfl⟩, rfl⟩ settled
  | listed | last => exact fits.elim
  | leaving n closed => cases closed <;> exact fits.elim
  | done => rfl

section Crowd

variable {errands : θ → Errand α} {initial : List α} {crowd : Crowd θ α} {thread : θ}
  {next : Roster α} {place : Place}

theorem tended_start {roster : Roster α} (made : ∀ n, roster.entry = some n → n < roster.made)
    (nodup : roster.members.Nodup) (occupied : roster.entry ≠ none → roster.members ≠ [])
    (errands : θ → Errand α) : Tended errands roster.members ⟨roster, fun _ => .start⟩ where
  made := made
  nodup := nodup
  fits _ := trivial
  own thread := by
    cases errands thread with
    | join value => simp [Stands, Place.past, Errand.value]
    | leave value => simp [Stands, Place.past, Errand.value]
  others _ _ := Iff.rfl
  occupied remains empty := absurd empty (occupied remains)

theorem Tended.kept (tended : Tended errands initial crowd)
    (distinct : Function.Injective fun thread => (errands thread).value)
    (ended : ∀ thread, crowd.control thread = .done) :
    Kept errands initial crowd.shared := by
  have members : ∀ value, value ∈ crowd.shared.members ↔
      (∃ thread, errands thread = .join value) ∨
        value ∈ initial ∧ ∀ thread, errands thread ≠ .leave value := by
    intro value
    by_cases somebody : ∃ thread, value = (errands thread).value
    · obtain ⟨thread, rfl⟩ := somebody
      have own := tended.own thread
      rw [ended] at own
      rw [own]
      cases errand : errands thread with
      | join value => exact iff_of_true (.inl rfl) (.inl ⟨thread, errand⟩)
      | leave value =>
          refine iff_of_false (fun impossible => Bool.false_ne_true impossible.2.symm) ?_
          rintro (⟨other, join⟩ | ⟨_, spared⟩)
          · have same : other = thread := distinct (by simp [join, errand, Errand.value])
            rw [same, errand] at join
            contradiction
          · exact spared thread errand
    · have nobody : ∀ thread, value ≠ (errands thread).value := by
        intro thread same
        exact somebody ⟨thread, same⟩
      rw [tended.others value nobody]
      constructor
      · intro member
        refine .inr ⟨member, fun thread leave => nobody thread ?_⟩
        rw [leave, Errand.value]
      · rintro (⟨thread, join⟩ | ⟨member, _⟩)
        · refine absurd ?_ (nobody thread)
          rw [join, Errand.value]
        · exact member
  refine ⟨members, ?_⟩
  simp only [← members]
  constructor
  · intro remains
    by_contra nobody
    have empty : crowd.shared.members = [] :=
      List.eq_nil_iff_forall_not_mem.mpr fun value member => nobody ⟨value, member⟩
    obtain ⟨thread, _, past⟩ := tended.occupied remains empty
    rw [ended] at past
    contradiction
  · rintro ⟨value, member⟩ absent
    rw [members_absent absent] at member
    contradiction

theorem Lost.not_kept (lost : Lost errands crowd)
    (ended : ∀ thread, crowd.control thread = .done) : ¬ Kept errands initial crowd.shared := by
  obtain ⟨thread, value, join, _, absent | ⟨other, n, last⟩⟩ := lost
  · intro kept
    exact absent ((kept.members value).mpr (.inl ⟨thread, join⟩))
  · rw [ended] at last
    contradiction

theorem Deserted.not_kept (deserted : Deserted errands crowd) :
    ¬ Kept errands initial crowd.shared := by
  intro kept
  obtain ⟨value, expected⟩ := kept.entry.mp deserted.entry
  have member := (kept.members value).mpr expected
  rw [deserted.members] at member
  contradiction

theorem orderly_of_ne (absent : ∀ n, crowd.control thread ≠ .absent n)
    (leaving : ∀ n, crowd.control thread ≠ .leaving n false) : Orderly errands crowd thread :=
  ⟨fun n here => absurd here (absent n), fun n here => absurd here (leaving n)⟩

theorem orderly_of_past (past : (crowd.control thread).past = true) :
    Orderly errands crowd thread := by
  apply orderly_of_ne
  · intro n absent
    rw [absent] at past
    contradiction
  · intro n leaving
    rw [leaving] at past
    contradiction

section Moves

variable [DecidableEq α] [DecidableEq θ]

theorem Tended.moves (tended : Tended errands initial crowd)
    (distinct : Function.Injective fun thread => (errands thread).value)
    (moves : crowd.shared.Moves (errands thread) (crowd.control thread) next place)
    (orderly : Orderly errands crowd thread) :
    Tended errands initial ⟨next, update crowd.control thread place⟩ where
  made := moves.made tended.made
  nodup := moves.nodup (tended.fits thread) tended.nodup
  fits := by
    intro other
    by_cases same : other = thread
    · subst same
      simpa using moves.fits tended.made (tended.fits other)
    · simp only [Function.update_of_ne same]
      apply moves.fits_other (tended.fits thread) (distinct.ne same) ?_ (tended.fits other)
      intro n absent
      exact (orderly.enters n absent).2 other
  own := by
    intro other
    by_cases same : other = thread
    · subst same
      simp only [Function.update_self]
      exact moves.stands_iff (tended.fits other) tended.nodup
        (fun n absent => (orderly.enters n absent).1) (tended.own other)
    · simp only [Function.update_of_ne same]
      have apart := distinct.ne same
      rw [moves.mem_iff apart ((tended.fits thread).closing apart), tended.own]
  others := by
    intro value nobody
    have apart := nobody thread
    rw [moves.mem_iff apart ((tended.fits thread).closing apart), tended.others value nobody]
  occupied := by
    intro remains empty
    have apart (somebody : ∃ other, Arriving (errands other) (crowd.control other)) :
        Arriving (errands thread) (crowd.control thread) ∨
          ∃ other, other ≠ thread ∧ Arriving (errands other) (crowd.control other) := by
      obtain ⟨other, arriving⟩ := somebody
      by_cases same : other = thread
      · exact .inl (same ▸ arriving)
      · exact .inr ⟨other, same, arriving⟩
    have fits := tended.fits thread
    have strikes : ∀ n, crowd.control thread = .leaving n false →
        crowd.shared.lists n = [(errands thread).value] →
        ∃ other, other ≠ thread ∧ Arriving (errands other) (crowd.control other) := by
      intro n leaving single
      refine (apart (orderly.strikes n leaving single)).resolve_left ?_
      rintro ⟨⟨value, join⟩, _⟩
      rw [join, leaving] at fits
      exact fits
    rcases moves.occupied fits (fun n absent => (orderly.enters n absent).1) _ strikes
      (fun remains empty => apart (tended.occupied remains empty)) remains empty with
      own | ⟨other, different, arriving⟩
    · exact ⟨thread, by simpa using own⟩
    · exact ⟨other, by simpa [different] using arriving⟩

theorem Lost.moves (lost : Lost errands crowd)
    (distinct : Function.Injective fun thread => (errands thread).value)
    (moves : crowd.shared.Moves (errands thread) (crowd.control thread) next place) :
    Lost errands ⟨next, update crowd.control thread place⟩ := by
  obtain ⟨loser, value, join, done, lost⟩ := lost
  have different : loser ≠ thread := by
    rintro rfl
    rw [join, done] at moves
    cases moves
  refine ⟨loser, value, join, by simpa [different] using done, ?_⟩
  rcases lost with absent | ⟨other, n, last⟩
  · have apart : value ≠ (errands thread).value := by
      have apart := distinct.ne different
      simp only [join] at apart
      exact apart
    exact .inl (mt (moves.mem_iff apart fun _ _ => absent).mp absent)
  · by_cases same : other = thread
    · subst same
      rw [last] at moves
      generalize errands other = errand at moves
      cases moves with
      | closes own n => exact .inl (by simp)
    · exact .inr ⟨other, n, by simpa [same] using last⟩

theorem Deserted.moves (deserted : Deserted errands crowd)
    (moves : crowd.shared.Moves (errands thread) (crowd.control thread) next place) :
    Deserted errands ⟨next, update crowd.control thread place⟩ := by
  cases errand : errands thread with
  | join value =>
      rw [errand, deserted.joiners thread value errand] at moves
      cases moves
  | leave value =>
      rw [errand] at moves
      obtain ⟨entry, members, others, own⟩ :=
        moves.idles deserted.entry deserted.members (deserted.leavers thread value errand)
      refine ⟨entry ▸ deserted.entry, members, ?_, ?_⟩
      · intro other another join
        have different : other ≠ thread := by
          rintro rfl
          rw [errand] at join
          contradiction
        simpa [different] using deserted.joiners other another join
      · intro other another leave
        by_cases same : other = thread
        · subst same
          cases errand.symm.trans leave
          simpa using own
        · simpa [same] using others another _ (deserted.leavers other another leave)

theorem Tended.lost (tended : Tended errands initial crowd)
    (moves : crowd.shared.Moves (errands thread) (crowd.control thread) next place) {n : Nat}
    (absent : crowd.control thread = .absent n)
    (astray : ¬ (crowd.shared.entry = some n ∧ ∀ other m, crowd.control other ≠ .last m)) :
    Lost errands ⟨next, update crowd.control thread place⟩ := by
  have fits := tended.fits thread
  rw [absent] at moves fits
  cases errand : errands thread with
  | leave value =>
      rw [errand] at fits
      exact fits.elim
  | join value =>
      rw [errand] at moves fits
      cases moves with
      | joins value n =>
          refine ⟨thread, value, errand, by simp, ?_⟩
          by_cases found : crowd.shared.entry = some n
          · obtain ⟨other, m, last⟩ : ∃ other m, crowd.control other = .last m := by
              by_contra none_last
              exact astray ⟨found, fun other m last => none_last ⟨other, m, last⟩⟩
            have different : other ≠ thread := by
              rintro rfl
              rw [absent] at last
              contradiction
            exact .inr ⟨other, m, by simpa [different] using last⟩
          · refine .inl ?_
            rw [members_withList_of_ne found]
            exact fits.2

theorem Tended.deserted (tended : Tended errands initial crowd)
    (distinct : Function.Injective fun thread => (errands thread).value)
    (moves : crowd.shared.Moves (errands thread) (crowd.control thread) next place) {n : Nat}
    (leaving : crowd.control thread = .leaving n false)
    (single : crowd.shared.lists n = [(errands thread).value])
    (nobody : ∀ other, ¬ Arriving (errands other) (crowd.control other)) :
    Deserted errands ⟨next, update crowd.control thread place⟩ := by
  have fits := tended.fits thread
  rw [leaving] at moves fits
  cases errand : errands thread with
  | join value =>
      rw [errand] at fits
      exact fits.elim
  | leave value =>
      rw [errand] at moves fits single
      have found : crowd.shared.entry = some n := fits.1
      have single : crowd.shared.lists n = [value] := single
      cases moves with
      | leaves value n closed =>
          have empty : (crowd.shared.withList n ((crowd.shared.lists n).erase value)).members =
              [] := by
            rw [members_withList_self found, single, List.erase_cons_head]
          refine ⟨by simp [withList, found], empty, ?_, ?_⟩
          · intro other another join
            have different : other ≠ thread := by
              rintro rfl
              rw [errand] at join
              contradiction
            simpa [different] using (tended.fits other).done_of_not_arriving join (nobody other)
          · intro other another leave
            by_cases same : other = thread
            · subst same
              simp [Idles]
            · simp only [Function.update_of_ne same]
              have apart : another ≠ value := by
                have apart := distinct.ne same
                simp only [leave, errand] at apart
                exact apart
              have fits := tended.fits other
              rw [leave] at fits
              exact (fits.idles found single apart).withList_erase

theorem Tended.breaks (tended : Tended errands initial crowd)
    (distinct : Function.Injective fun thread => (errands thread).value)
    (moves : crowd.shared.Moves (errands thread) (crowd.control thread) next place)
    (disorderly : ¬ Orderly errands crowd thread) :
    Lost errands ⟨next, update crowd.control thread place⟩ ∨
      Deserted errands ⟨next, update crowd.control thread place⟩ := by
  have fits := tended.fits thread
  by_cases enters : ∀ n, crowd.control thread = .absent n →
      crowd.shared.entry = some n ∧ ∀ other m, crowd.control other ≠ .last m
  · have strikes : ∃ n, crowd.control thread = .leaving n false ∧
        crowd.shared.lists n = [(errands thread).value] ∧
        ∀ other, ¬ Arriving (errands other) (crowd.control other) := by
      by_contra strikes
      apply disorderly
      refine ⟨enters, fun n leaving single => ?_⟩
      by_contra nobody
      exact strikes ⟨n, leaving, single, not_exists.mp nobody⟩
    obtain ⟨n, leaving, single, nobody⟩ := strikes
    exact .inr (tended.deserted distinct moves leaving single nobody)
  · obtain ⟨n, absent, astray⟩ : ∃ n, crowd.control thread = .absent n ∧
        ¬ (crowd.shared.entry = some n ∧ ∀ other m, crowd.control other ≠ .last m) := by
      by_contra straight
      refine enters fun n absent => ?_
      by_contra astray
      exact straight ⟨n, absent, astray⟩
    exact .inl (tended.lost moves absent astray)

end Moves

end Crowd

end Roster

end TestReactor
