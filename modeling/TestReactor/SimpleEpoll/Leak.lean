import TestReactor.SimpleEpoll.SlotTable

namespace TestReactor

/-! What becomes of the descriptors that `accept` returns. -/

namespace SimpleEpoll

structure Ledger where
  table : State BUFF_LEN
  accepted : List Nat
  closed : List (Option Nat)

structure Occurrence where
  ev : Nat
  answers : Answers

namespace Ledger

def record (ledger : Ledger) (next : State BUFF_LEN) : Ledger where
  table := next
  accepted := ledger.accepted ++
    List.range' ledger.table.descriptors.openings
      (next.descriptors.openings - ledger.table.descriptors.openings)
  closed := ledger.closed ++
    (next.closed.drop ledger.table.closed.length).map ledger.table.descriptors.denotes

/-- Events are for slots in use, and `accept` returns descriptors that are not. -/
def admits (ledger : Ledger) (occurrence : Occurrence) : Bool :=
  decide (occurrence.ev ≤ MAX_EVENTS) &&
    decide ((ledger.table.events occurrence.ev).status = 1) &&
    match occurrence.answers.accept with
    | .ok cfd => decide (ledger.table.descriptors.Free cfd)
    | .error _ => true

def step (ledger : Ledger) (occurrence : Occurrence) : Option Ledger :=
  if ledger.admits occurrence then
    match (invoke occurrence.answers (ledger.table.events occurrence.ev)).run ledger.table with
    | .ok _ next => some (ledger.record next)
    | .error _ _ => none
  else none

/-- Every accepted descriptor is closed or in the hands of exactly one slot, and nothing
is closed twice. -/
structure Tight (ledger : Ledger) : Prop where
  kept : ∀ opening ∈ ledger.accepted, some opening ∈ ledger.closed ∨
    ∃ ev, (ev ≤ MAX_EVENTS ∧ (ledger.table.events ev).status = 1 ∧
        ledger.table.descriptors.denotes (ledger.table.events ev).fd = some opening) ∧
      ∀ other, other ≤ MAX_EVENTS ∧ (ledger.table.events other).status = 1 ∧
        ledger.table.descriptors.denotes (ledger.table.events other).fd = some opening →
        other = ev
  open_ : none ∉ ledger.closed
  once : ledger.closed.Nodup

def Houses (ledger : Ledger) (occurrence : Occurrence) : Prop :=
  (ledger.table.events occurrence.ev).callBack = some .handleAccept →
    ∀ cfd, occurrence.answers.accept = .ok cfd →
      freeSlot ledger.table ≠ none ∧
        setNonBlock occurrence.answers.flags occurrence.answers.r = true

end Ledger

/-- Openings are numbered in their order, and no two open descriptors share one. -/
structure Numbered (descriptors : Descriptors) : Prop where
  below : ∀ fd opening, descriptors.denotes fd = some opening →
    opening < descriptors.openings
  distinct : ∀ fd other opening, descriptors.denotes fd = some opening →
    descriptors.denotes other = some opening → fd = other

section

variable {descriptors : Descriptors} {fd : Int}

theorem Numbered.grant (numbered : Numbered descriptors) (fd : Int) :
    Numbered (descriptors.grant fd) where
  below := (descriptors.later_grant fd).dated numbered.below
  distinct := by
    intro first second opening left right
    rcases Descriptors.denotes_of_grant left with ⟨new, its⟩ | ⟨-, held⟩ <;>
      rcases Descriptors.denotes_of_grant right with ⟨new', its'⟩ | ⟨-, held'⟩
    · rw [its, its']
    · exact absurd (numbered.below _ _ held') (Nat.not_lt_of_le (Nat.le_of_eq new.symm))
    · exact absurd (numbered.below _ _ held) (Nat.not_lt_of_le (Nat.le_of_eq new'.symm))
    · exact numbered.distinct _ _ _ held held'

theorem Numbered.close (numbered : Numbered descriptors) (fd : Int) :
    Numbered (descriptors.close fd) where
  below := (descriptors.later_close fd).dated numbered.below
  distinct first second opening left right :=
    numbered.distinct first second opening (Descriptors.denotes_of_close left).2
      (Descriptors.denotes_of_close right).2

end

/-- The invariant behind `Tight`: a closed opening is never open again. -/
structure Accounted (ledger : Ledger) : Prop where
  sound : Sound ledger.table
  numbered : Numbered ledger.table.descriptors
  kept : ∀ opening ∈ ledger.accepted, some opening ∈ ledger.closed ∨
    ∃ ev ≤ MAX_EVENTS, (ledger.table.events ev).status = 1 ∧
      ledger.table.descriptors.denotes (ledger.table.events ev).fd = some opening
  past : ∀ opening, some opening ∈ ledger.closed →
    opening < ledger.table.descriptors.openings ∧
      ∀ fd, ledger.table.descriptors.denotes fd ≠ some opening
  open_ : none ∉ ledger.closed
  once : ledger.closed.Nodup

namespace Accounted

variable {ledger : Ledger}

theorem tight (accounted : Accounted ledger) : ledger.Tight where
  kept := by
    intro opening member
    rcases accounted.kept opening member with closed | ⟨ev, within, listed, denotes⟩
    · exact .inl closed
    · refine .inr ⟨ev, ⟨within, listed, denotes⟩, ?_⟩
      rintro other ⟨within', listed', denotes'⟩
      have same := accounted.numbered.distinct _ _ _ denotes' denotes
      exact accounted.sound.distinct within' within listed' listed same
  open_ := accounted.open_
  once := accounted.once

variable {ev : Nat} {event : Event BUFF_LEN}

theorem rearmed (accounted : Accounted ledger) (connection : ev < MAX_EVENTS)
    (listed : (ledger.table.events ev).status = 1) (waits : event.Waits ev)
    (same : event.fd = (ledger.table.events ev).fd) :
    Accounted (ledger.record (ledger.table.rearmed ev event)) := by
  have recorded : ledger.record (ledger.table.rearmed ev event) =
      { ledger with table := ledger.table.rearmed ev event } := by
    simp [Ledger.record, State.rearmed, State.put]
  rw [recorded]
  refine ⟨accounted.sound.rearmed connection listed waits same, accounted.numbered, ?_,
    accounted.past, accounted.open_, accounted.once⟩
  intro opening member
  rcases accounted.kept opening member with closed | ⟨other, within, held, denotes⟩
  · exact .inl closed
  · refine .inr ⟨other, within, ?_⟩
    by_cases its : other = ev
    · subst its
      rw [State.events_rearmed, same]
      exact ⟨waits.listed, denotes⟩
    · rw [show (ledger.table.rearmed ev event).events other = _ from
        State.events_put_of_ne its event]
      exact ⟨held, denotes⟩

theorem shut (accounted : Accounted ledger) (connection : ev < MAX_EVENTS)
    (listed : (ledger.table.events ev).status = 1) (free : event.status = 0)
    (same : event.fd = (ledger.table.events ev).fd) :
    Accounted (ledger.record (ledger.table.shut ev event)) := by
  have within := Nat.le_of_lt connection
  obtain ⟨last, denotes_last⟩ := accounted.sound.denotes within listed
  have recorded : ledger.record (ledger.table.shut ev event) =
      { ledger with
        table := ledger.table.shut ev event
        closed := ledger.closed ++ [some last] } := by
    simp [Ledger.record, State.shut, State.put, State.close, Descriptors.close, same,
      denotes_last]
  have fresh : some last ∉ ledger.closed := by
    intro closed
    exact (accounted.past last closed).2 _ denotes_last
  rw [recorded]
  constructor
  case sound => exact accounted.sound.shut connection listed free same
  case numbered => exact accounted.numbered.close event.fd
  case kept =>
    intro opening member
    rcases accounted.kept opening member with closed | ⟨other, within', held, denotes⟩
    · exact .inl (List.mem_append_left _ closed)
    · by_cases its : other = ev
      · subst its
        rw [denotes_last] at denotes
        exact .inl (List.mem_append_right _ (by simp [denotes]))
      · refine .inr ⟨other, within', ?_⟩
        have apart : (ledger.table.events other).fd ≠ event.fd := by
          rw [same]
          intro shared
          exact its (accounted.sound.distinct within' within held listed shared)
        rw [show (ledger.table.shut ev event).events other = _ from
          State.events_put_of_ne its event]
        exact ⟨held, (Descriptors.denotes_close_of_ne apart).trans denotes⟩
  case past =>
    intro opening closed
    rcases List.mem_append.mp closed with old | new
    · obtain ⟨below, gone⟩ := accounted.past opening old
      exact ⟨below, fun fd denotes => gone fd (Descriptors.denotes_of_close denotes).2⟩
    · obtain rfl := Option.some.inj (List.mem_singleton.mp new)
      refine ⟨accounted.numbered.below _ _ denotes_last, fun fd denotes => ?_⟩
      obtain ⟨different, still⟩ := Descriptors.denotes_of_close denotes
      exact different ((accounted.numbered.distinct _ _ _ still denotes_last).trans same.symm)
  case open_ => simp [accounted.open_]
  case once =>
    apply List.nodup_append.mpr
    refine ⟨accounted.once, by simp, ?_⟩
    rintro first member second single rfl
    rw [List.mem_singleton.mp single] at member
    exact fresh member

theorem past_granted (accounted : Accounted ledger) (cfd : Int) (opening : Nat)
    (closed : some opening ∈ ledger.closed) :
    opening < (ledger.table.descriptors.grant cfd).openings ∧
      ∀ fd, (ledger.table.descriptors.grant cfd).denotes fd ≠ some opening := by
  obtain ⟨below, gone⟩ := accounted.past opening closed
  refine ⟨Nat.lt_succ_of_lt below, fun fd denotes => ?_⟩
  simp only [Descriptors.grant] at denotes
  split at denotes
  · cases denotes
    exact absurd below (Nat.lt_irrefl _)
  · exact gone fd denotes

theorem accepted (accounted : Accounted ledger) {cfd : Int} {slot : Nat}
    {answers : Answers} (listed : (ledger.table.events ev).status = 1)
    (free : ledger.table.descriptors.Free cfd) (vacant : freeSlot ledger.table = some slot)
    (blocking : setNonBlock answers.flags answers.r = true) (waits : event.Waits slot)
    (same : event.fd = cfd) :
    Accounted (ledger.record
      (State.armed
        { ledger.table with descriptors := ledger.table.descriptors.grant cfd } slot event)) := by
  have effect : Effect ledger.table ev answers _ :=
    .accepted cfd free slot vacant blocking event waits same
  have recorded : ledger.record (State.armed
      { ledger.table with descriptors := ledger.table.descriptors.grant cfd } slot event) =
        ⟨State.armed
            { ledger.table with descriptors := ledger.table.descriptors.grant cfd } slot event,
          ledger.accepted ++ [ledger.table.descriptors.openings], ledger.closed⟩ := by
    simp [Ledger.record, State.armed, State.put, Descriptors.grant]
  obtain ⟨connection, unused⟩ := freeSlot_eq_some vacant
  rw [recorded]
  refine ⟨accounted.sound.effect listed effect, accounted.numbered.grant cfd, ?_,
    accounted.past_granted cfd, accounted.open_, accounted.once⟩
  intro opening member
  rcases List.mem_append.mp member with old | new
  · rcases accounted.kept opening old with closed | ⟨other, within, held, denotes⟩
    · exact .inl closed
    · have different : other ≠ slot := by
        rintro rfl
        rw [unused] at held
        exact absurd held (by decide)
      refine .inr ⟨other, within, ?_⟩
      rw [State.armed]
      rw [show (State.put _ slot event).events other = _ from
        State.events_put_of_ne different event]
      exact ⟨held, Descriptors.denotes_grant_of_denotes free denotes⟩
  · refine .inr ⟨slot, Nat.le_of_lt connection, ?_⟩
    rw [State.events_armed, same, List.mem_singleton.mp new]
    exact ⟨waits.listed, Descriptors.denotes_grant_self⟩

theorem not_tight_granted (accounted : Accounted ledger) {cfd : Int}
    (free : ledger.table.descriptors.Free cfd) :
    ¬ (ledger.record
      { ledger.table with
        descriptors := ledger.table.descriptors.grant cfd }).Tight := by
  intro tight
  have recorded : ledger.table.descriptors.openings ∈ (ledger.record
      { ledger.table with
        descriptors := ledger.table.descriptors.grant cfd }).accepted := by
    simp [Ledger.record, Descriptors.grant]
  rcases tight.kept _ recorded with closed | ⟨ev, ⟨within, listed, denotes⟩, -⟩
  · have old : some ledger.table.descriptors.openings ∈ ledger.closed := by
      simpa [Ledger.record] using closed
    exact absurd (accounted.past _ old).1 (Nat.lt_irrefl _)
  · obtain ⟨opening, earlier⟩ := accounted.sound.denotes within listed
    have kept := Descriptors.denotes_grant_of_denotes free earlier
    have same : opening = ledger.table.descriptors.openings :=
      Option.some.inj (kept.symm.trans denotes)
    rw [same] at earlier
    exact absurd (accounted.numbered.below _ _ earlier) (Nat.lt_irrefl _)

end Accounted

namespace Ledger

variable {ledger next : Ledger} {occurrence : Occurrence}

theorem step_cases (sound : Sound ledger.table) (admitted : ledger.admits occurrence = true) :
    (ledger.table.events occurrence.ev).status = 1 ∧
      ∃ table, ledger.step occurrence = some (ledger.record table) ∧
        Effect ledger.table occurrence.ev occurrence.answers table := by
  have holds := admitted
  simp only [admits, Bool.and_eq_true, decide_eq_true_eq] at holds
  obtain ⟨⟨within, listed⟩, granted⟩ := holds
  refine ⟨listed, ?_⟩
  rcases run_invoke sound within listed occurrence.answers with
    ⟨-, cfd, answered, taken⟩ | ⟨table, ran, effect⟩
  · rw [answered] at granted
    exact absurd (of_decide_eq_true granted) taken
  · exact ⟨table, by rw [step, if_pos admitted, ran], effect⟩

theorem effect_of_step (sound : Sound ledger.table)
    (stepped : ledger.step occurrence = some next) :
    (ledger.table.events occurrence.ev).status = 1 ∧
      ∃ table, next = ledger.record table ∧
        Effect ledger.table occurrence.ev occurrence.answers table := by
  cases admitted : ledger.admits occurrence with
  | false => simp [step, admitted] at stepped
  | true =>
      obtain ⟨listed, table, same, effect⟩ := step_cases sound admitted
      rw [stepped] at same
      exact ⟨listed, table, Option.some.inj same, effect⟩

theorem not_accepts (sound : Sound ledger.table) {ev : Nat} (connection : ev < MAX_EVENTS)
    (listed : (ledger.table.events ev).status = 1) :
    (ledger.table.events ev).callBack ≠ some .handleAccept := by
  intro accepts
  rcases (sound.waits connection listed).2 with receives | ⟨chunk, holds⟩
  · rw [receives.1] at accepts
    contradiction
  · rw [holds.sends.1] at accepts
    contradiction

theorem accounted_step (accounted : Accounted ledger)
    (stepped : ledger.step occurrence = some next) (houses : ledger.Houses occurrence) :
    Accounted next := by
  obtain ⟨listed, table, rfl, effect⟩ := effect_of_step accounted.sound stepped
  cases effect with
  | rearmed event connection waits same => exact accounted.rearmed connection listed waits same
  | shut event connection free same => exact accounted.shut connection listed free same
  | none => simpa [record] using accounted
  | granted cfd free accepts answered homeless =>
      obtain ⟨room, blocking⟩ := houses accepts cfd answered
      rcases homeless with full | failed
      · exact absurd full room
      · exact absurd (blocking.symm.trans failed) (by decide)
  | accepted cfd free slot vacant blocking event waits same =>
      exact accounted.accepted listed free vacant blocking waits same

theorem houses_of_tight (accounted : Accounted ledger)
    (stepped : ledger.step occurrence = some next) (tight : next.Tight) :
    ledger.Houses occurrence := by
  obtain ⟨listed, table, rfl, effect⟩ := effect_of_step accounted.sound stepped
  intro accepts cfd answered
  cases effect with
  | rearmed event connection waits same =>
      exact absurd accepts (not_accepts accounted.sound connection listed)
  | shut event connection free same =>
      exact absurd accepts (not_accepts accounted.sound connection listed)
  | none failed => exact absurd answered (failed cfd)
  | granted cfd' free => exact absurd tight (accounted.not_tight_granted free)
  | accepted cfd' free slot vacant blocking event waits same =>
      exact ⟨by simp [vacant], blocking⟩

end Ledger

theorem accounted_start {descriptors : Descriptors} {socket bind efd : Int}
    {state : State BUFF_LEN} (numbered : Numbered descriptors)
    (started : (startServer socket bind efd).run (boot descriptors) = .ok true state) :
    Accounted ⟨state, [], []⟩ := by
  obtain ⟨free, fresh, rfl⟩ := listening_of_started started
  refine ⟨sound_listening ?_, (numbered.grant socket).grant efd, ?_, ?_, ?_, ?_⟩
  · rw [Descriptors.denotes_grant_of_denotes fresh Descriptors.denotes_grant_self]
    simp
  all_goals simp

/-- No accepted descriptor leaks throughout exactly the runs in which every connection
that `accept` returns finds a free slot and can be made non-blocking. -/
theorem tight_iff_houses {descriptors : Descriptors} {socket bind efd : Int}
    {state : State BUFF_LEN} (numbered : Numbered descriptors)
    (started : (startServer socket bind efd).run (boot descriptors) = .ok true state)
    (occurrences : List Occurrence) :
    (Runs.Always Ledger.step Ledger.Tight ⟨state, [], []⟩ occurrences ↔
        Runs.Each Ledger.step Ledger.Houses ⟨state, [], []⟩ occurrences) ∧
      ∀ ledger, Runs.exec Ledger.step ⟨state, [], []⟩ occurrences = some ledger →
        ∀ occurrence, ledger.admits occurrence = true →
          ∃ next, ledger.step occurrence = some next := by
  have start := accounted_start numbered started
  constructor
  · apply Runs.always_iff_each Accounted
    · intro ledger occurrence next accounted stepped houses
      exact Ledger.accounted_step accounted stepped houses
    · intro ledger accounted
      exact accounted.tight
    · intro ledger occurrence next accounted stepped tight
      exact Ledger.houses_of_tight accounted stepped tight
    · exact start
  · intro ledger reached occurrence admitted
    have sound : Sound ledger.table := by
      apply Runs.exec_keeps (fun ledger => Sound ledger.table) _ start.sound reached
      intro ledger occurrence next sound stepped
      obtain ⟨listed, table, rfl, effect⟩ := Ledger.effect_of_step sound stepped
      exact sound.effect listed effect
    obtain ⟨-, table, stepped, -⟩ := Ledger.step_cases sound admitted
    exact ⟨_, stepped⟩

theorem numbered_empty : Numbered .empty where
  below := by
    intro fd opening denotes
    contradiction
  distinct := by
    intro fd other opening denotes
    contradiction

theorem tight_iff_houses_first_connection :
    let state := listening ((Descriptors.empty.grant 3).grant 4) 3
    let occurrences : List Occurrence := [⟨MAX_EVENTS, ⟨.ok 5, 0, 0, .ok [], .ok 0⟩⟩]
    (startServer 3 0 4).run (boot .empty) = .ok true state ∧
      (Runs.Always Ledger.step Ledger.Tight ⟨state, [], []⟩ occurrences ↔
        Runs.Each Ledger.step Ledger.Houses ⟨state, [], []⟩ occurrences) := by
  have started : (startServer 3 0 4).run (boot .empty) =
      .ok true (listening ((Descriptors.empty.grant 3).grant 4) 3) :=
    run_startServer (by decide) (by decide) (by decide)
  exact ⟨started, (tight_iff_houses numbered_empty started _).1⟩

/-- `fcntl` fails for a connection: `handle_accept` gives its descriptor up. -/
theorem connection_without_fcntl_leaks :
    let state := listening ((Descriptors.empty.grant 3).grant 4) 3
    let occurrences : List Occurrence := [⟨MAX_EVENTS, ⟨.ok 5, -1, 0, .ok [], .ok 0⟩⟩]
    (startServer 3 0 4).run (boot .empty) = .ok true state ∧
      ¬ Runs.Always Ledger.step Ledger.Tight ⟨state, [], []⟩ occurrences := by
  have started : (startServer 3 0 4).run (boot .empty) =
      .ok true (listening ((Descriptors.empty.grant 3).grant 4) 3) :=
    run_startServer (by decide) (by decide) (by decide)
  refine ⟨started, fun always => ?_⟩
  have accounted := accounted_start numbered_empty started
  have admitted : Ledger.admits ⟨listening ((Descriptors.empty.grant 3).grant 4) 3, [], []⟩
      ⟨MAX_EVENTS, ⟨.ok 5, -1, 0, .ok [], .ok 0⟩⟩ = true := rfl
  obtain ⟨-, table, stepped, -⟩ := Ledger.step_cases accounted.sound admitted
  have houses := Ledger.houses_of_tight accounted stepped (always _ stepped).1
  exact absurd (houses rfl 5 rfl).2 (by decide)

end SimpleEpoll

end TestReactor
