import TestReactor.SimpleEpoll.SlotTable

namespace TestReactor

/-! Which slots the callbacks of a batch are made on. -/

namespace SimpleEpoll

/-- `epoll_wait` reports a descriptor with the pointer it was registered with, and with
some of the bits that were asked for, or with those that are never asked for. -/
def Report.fits (report : Report) (epoll : Epoll Nat) : Bool :=
  match epoll.interest report.fd with
  | some entry =>
      report.data = entry.data &&
        report.events &&& ~~~(entry.events ||| Epoll.EPOLLERR ||| Epoll.EPOLLHUP) = 0
  | none => false

/-- A batch reports every descriptor at most once. -/
def batched (reports : List Report) (epoll : Epoll Nat) : Bool :=
  decide (reports.map Report.fd).Nodup && reports.all fun report => report.fits epoll

def Server.step (server : Server BUFF_LEN) (reports : List Report) :
    Option (Server BUFF_LEN) :=
  if batched reports server.table.epoll then
    match (dispatchEvents reports).run { server with calls := [] } with
    | .ok _ next => some next
    | .error .blocked _ => none
    | .error _ next => some { next with crashed := true }
  else none

/-- The slots in use are those that the interest list points to, each with an open
descriptor of its own. -/
structure Agrees (state : State BUFF_LEN) : Prop where
  listed : ∀ ev ≤ MAX_EVENTS, (state.events ev).status = 1 ↔
    state.epoll.interest (state.events ev).fd = some ⟨(state.events ev).events, ev⟩
  distinct : ∀ ev ≤ MAX_EVENTS, ∀ other ≤ MAX_EVENTS, (state.events ev).status = 1 →
    (state.events other).status = 1 → (state.events ev).fd = (state.events other).fd →
    ev = other
  opened : ∀ ev ≤ MAX_EVENTS, (state.events ev).status = 1 →
    ∃ opening, state.descriptors.denotes (state.events ev).fd = some opening
  receives : ∀ ev < MAX_EVENTS, (state.events ev).status = 1 →
    (state.events ev).events = Epoll.EPOLLIN → (state.events ev).callBack = some .handleRecv
  sends : ∀ ev < MAX_EVENTS, (state.events ev).status = 1 →
    (state.events ev).events = Epoll.EPOLLOUT → (state.events ev).callBack = some .handleSend

/-- A callback is made on a slot in use, with its own descriptor; no callback before it
in the batch was made on the slot or has changed it. -/
structure Rightly (earlier : List (Invocation BUFF_LEN)) (call : Invocation BUFF_LEN) : Prop where
  listed : (call.before.events call.ev).status = 1
  own : call.fd = (call.before.events call.ev).fd
  untouched : ∀ other ∈ earlier,
    other.ev ≠ call.ev ∧ other.before.events call.ev = call.before.events call.ev

structure Orderly (server : Server BUFF_LEN) : Prop where
  intact : server.crashed = false
  between : ∀ call ∈ server.calls, Agrees call.before
  after : Agrees server.table
  rightly : ∀ earlier call, earlier ++ [call] <+: server.calls → Rightly earlier call

section

variable {state : State BUFF_LEN} {ev : Nat}

theorem Sound.mask (sound : Sound state) (within : ev ≤ MAX_EVENTS)
    (listed : (state.events ev).status = 1) :
    (state.events ev).events = Epoll.EPOLLIN ∨ (state.events ev).events = Epoll.EPOLLOUT := by
  rcases Nat.lt_or_eq_of_le within with connection | rfl
  · rcases (sound.waits connection listed).2 with receives | ⟨chunk, holds⟩
    · exact .inl receives.2.2
    · exact .inr holds.sends.2.2
  · exact .inl sound.listening.2.2

theorem Sound.agrees (sound : Sound state) : Agrees state where
  listed := by
    intro ev within
    constructor
    · exact sound.listed ev within
    · intro held
      exact (sound.owned _ _ held).2.1
  distinct := fun ev within other within' => sound.distinct within within'
  opened := fun ev within => sound.denotes within
  receives := by
    intro ev connection listed mask
    rcases (sound.waits connection listed).2 with receives | ⟨chunk, holds⟩
    · exact receives.1
    · rw [holds.sends.2.2] at mask
      exact absurd mask (by decide)
  sends := by
    intro ev connection listed mask
    rcases (sound.waits connection listed).2 with receives | ⟨chunk, holds⟩
    · rw [receives.2.2] at mask
      exact absurd mask (by decide)
    · exact holds.sends.1

end

/-! One batch. -/

def Server.noted (server : Server BUFF_LEN) (ev : Nat) : Server BUFF_LEN :=
  { server with
    calls := server.calls ++ [⟨ev, (server.table.events ev).fd, server.table⟩] }

/-- In the middle of a batch: the slots of the reports still to come have not been
touched. -/
structure Halfway (rest : List Report) (server : Server BUFF_LEN) : Prop where
  sound : Sound server.table
  intact : server.crashed = false
  between : ∀ call ∈ server.calls, Sound call.before
  rightly : ∀ earlier call, earlier ++ [call] <+: server.calls → Rightly earlier call
  waiting : ∀ report ∈ rest, report.data ≤ MAX_EVENTS ∧
    (server.table.events report.data).status = 1 ∧
    report.events &&& ~~~((server.table.events report.data).events |||
      Epoll.EPOLLERR ||| Epoll.EPOLLHUP) = 0
  untouched : ∀ report ∈ rest, ∀ call ∈ server.calls, call.ev ≠ report.data ∧
    call.before.events report.data = server.table.events report.data
  apart : rest.Pairwise fun report other => report.data ≠ other.data

section

variable {server : Server BUFF_LEN} {report : Report} {rest : List Report}

theorem Halfway.orderly (halfway : Halfway [] server) : Orderly server where
  intact := halfway.intact
  between := fun call member => (halfway.between call member).agrees
  after := halfway.sound.agrees
  rightly := halfway.rightly

theorem Halfway.skipped (halfway : Halfway (report :: rest) server) : Halfway rest server where
  sound := halfway.sound
  intact := halfway.intact
  between := halfway.between
  rightly := halfway.rightly
  waiting := fun other member => halfway.waiting other (.tail _ member)
  untouched := fun other member => halfway.untouched other (.tail _ member)
  apart := halfway.apart.of_cons

theorem Halfway.called (halfway : Halfway (report :: rest) server) {table : State BUFF_LEN}
    {answers : Answers} (effect : Effect server.table report.data answers table) :
    Halfway rest { server.noted report.data with table := table } := by
  have head : report ∈ report :: rest := .head _
  obtain ⟨within, listed, -⟩ := halfway.waiting report head
  have same : ∀ other ∈ rest, other.data ≠ report.data ∧
      table.events other.data = server.table.events other.data := by
    intro other member
    have different := (List.rel_of_pairwise_cons halfway.apart member).symm
    have waits := (halfway.waiting other (.tail _ member)).2.1
    exact ⟨different, effect.events_of_ne different waits⟩
  constructor
  case sound => exact halfway.sound.effect listed effect
  case intact => exact halfway.intact
  case between =>
    intro call member
    rcases List.mem_append.mp member with old | new
    · exact halfway.between call old
    · rw [List.mem_singleton.mp new]
      exact halfway.sound
  case rightly =>
    intro earlier call reached
    rcases List.prefix_concat_iff.mp reached with whole | before
    · obtain ⟨rfl, last⟩ := List.append_inj' whole rfl
      rw [List.singleton_inj.mp last]
      exact ⟨listed, rfl, halfway.untouched report head⟩
    · exact halfway.rightly earlier call before
  case waiting =>
    intro other member
    rw [(same other member).2]
    exact halfway.waiting other (.tail _ member)
  case untouched =>
    intro other member call called
    rw [(same other member).2]
    rcases List.mem_append.mp called with old | new
    · exact halfway.untouched other (.tail _ member) call old
    · rw [List.mem_singleton.mp new]
      exact ⟨(same other member).1.symm, rfl⟩
  case apart => exact halfway.apart.of_cons

theorem and_eq_zero_of_masked {events mask : BitVec 32} (bit : BitVec 32)
    (masked : events &&& ~~~mask = 0) (outside : ~~~mask &&& bit = bit) :
    events &&& bit = 0 := by
  rw [← outside, ← BitVec.and_assoc, masked]
  exact BitVec.zero_and

theorem run_callBack_of_unset {bit : BitVec 32} (unset : report.events &&& bit = 0)
    (answers : Answers) (server : Server BUFF_LEN) :
    (callBack bit report answers).run server = .ok () server := by
  simp [callBack, unset]

theorem run_callBack_of_set {bit : BitVec 32}
    (asked : report.events &&& bit ≠ 0 ∧
      (server.table.events report.data).events &&& bit ≠ 0) (answers : Answers) :
    (callBack bit report answers).run server =
      (Exec.on tableField (invoke answers (server.table.events report.data))).run
        (server.noted report.data) := by
  simp only [callBack, EStateM.run_bind, EStateM.run_get, decide_eq_true asked,
    Exec.run_when_true, EStateM.run_modify]
  rfl

theorem Halfway.after_callBack (halfway : Halfway (report :: rest) server) (bit : BitVec 32)
    (answers : Answers) :
    (∃ last, (callBack bit report answers).run server = .error .blocked last) ∨
      ∃ next, (callBack bit report answers).run server = .ok () next ∧ Halfway rest next := by
  obtain ⟨within, listed, -⟩ := halfway.waiting report (.head _)
  by_cases asked : report.events &&& bit ≠ 0 ∧
      (server.table.events report.data).events &&& bit ≠ 0
  · rw [run_callBack_of_set asked answers]
    rcases run_invoke halfway.sound within listed answers with
      ⟨blocked, -⟩ | ⟨table, ran, effect⟩
    · exact .inl ⟨_, Exec.run_on_error blocked⟩
    · exact .inr ⟨_, Exec.run_on_ok ran, halfway.called effect⟩
  · refine .inr ⟨server, ?_, halfway.skipped⟩
    simp only [callBack, EStateM.run_bind, EStateM.run_get, decide_eq_false asked,
      Exec.run_when_false]

theorem Halfway.after_dispatch (halfway : Halfway (report :: rest) server) :
    (∃ last, (dispatch report).run server = .error .blocked last) ∨
      ∃ next, (dispatch report).run server = .ok () next ∧ Halfway rest next := by
  obtain ⟨within, listed, masked⟩ := halfway.waiting report (.head _)
  rcases halfway.sound.mask within listed with mask | mask
  · rw [mask] at masked
    have unset := and_eq_zero_of_masked Epoll.EPOLLOUT masked (by decide)
    rcases halfway.after_callBack Epoll.EPOLLIN report.read with ⟨last, ran⟩ | ⟨next, ran, kept⟩
    · exact .inl ⟨last, by simp only [dispatch, EStateM.run_bind, ran]⟩
    · refine .inr ⟨next, ?_, kept⟩
      simp only [dispatch, EStateM.run_bind, ran, run_callBack_of_unset unset]
  · rw [mask] at masked
    have unset := and_eq_zero_of_masked Epoll.EPOLLIN masked (by decide)
    have skipped : ∀ result, (callBack Epoll.EPOLLOUT report report.write).run server = result →
        (dispatch report).run server = result := by
      rintro _ rfl
      simp only [dispatch, EStateM.run_bind, run_callBack_of_unset unset]
    rcases halfway.after_callBack Epoll.EPOLLOUT report.write with ⟨last, ran⟩ | ⟨next, ran, kept⟩
    · exact .inl ⟨last, skipped _ ran⟩
    · exact .inr ⟨next, skipped _ ran, kept⟩

end

/-- The run lemma: a whole batch comes back with the server in order, unless the
kernel never answers. -/
theorem Halfway.after_dispatchEvents {reports : List Report} {server : Server BUFF_LEN}
    (halfway : Halfway reports server) :
    (∃ last, (dispatchEvents reports).run server = .error .blocked last) ∨
      ∃ next, (dispatchEvents reports).run server = .ok () next ∧ Halfway [] next := by
  induction reports generalizing server with
  | nil => exact .inr ⟨server, rfl, halfway⟩
  | cons report rest ih =>
      have unfolded : dispatchEvents (report :: rest) =
          (dispatch report >>= fun _ => dispatchEvents rest :
            Exec (Server BUFF_LEN) Unit) := rfl
      rw [unfolded, EStateM.run_bind]
      rcases halfway.after_dispatch with ⟨last, ran⟩ | ⟨next, ran, kept⟩
      · exact .inl ⟨last, by rw [ran]⟩
      · rw [ran]
        exact ih kept

theorem Report.fits_iff {report : Report} {epoll : Epoll Nat} :
    report.fits epoll = true ↔ ∃ entry, epoll.interest report.fd = some entry ∧
      report.data = entry.data ∧
      report.events &&& ~~~(entry.events ||| Epoll.EPOLLERR ||| Epoll.EPOLLHUP) = 0 := by
  unfold Report.fits
  cases epoll.interest report.fd <;> simp

theorem halfway_of_batched {server : Server BUFF_LEN} {reports : List Report}
    (sound : Sound server.table) (intact : server.crashed = false)
    (valid : batched reports server.table.epoll = true) :
    Halfway reports { server with calls := [] } := by
  simp only [batched, Bool.and_eq_true, decide_eq_true_eq, List.all_eq_true] at valid
  obtain ⟨nodup, fits⟩ := valid
  have slot : ∀ report ∈ reports, report.data ≤ MAX_EVENTS ∧
      (server.table.events report.data).status = 1 ∧
      (server.table.events report.data).fd = report.fd ∧
      report.events &&& ~~~((server.table.events report.data).events |||
        Epoll.EPOLLERR ||| Epoll.EPOLLHUP) = 0 := by
    intro report member
    obtain ⟨entry, held, data, masked⟩ := Report.fits_iff.mp (fits report member)
    obtain ⟨within, listed, same, mask⟩ := sound.owned _ _ held
    rw [data, mask]
    exact ⟨within, listed, same, masked⟩
  constructor
  case sound => exact sound
  case intact => exact intact
  case between => simp
  case rightly => simp
  case waiting =>
    intro report member
    obtain ⟨within, listed, -, masked⟩ := slot report member
    exact ⟨within, listed, masked⟩
  case untouched => simp
  case apart =>
    have distinct := List.pairwise_map.mp nodup
    apply distinct.imp_of_mem
    intro report other member member' different same
    apply different
    rw [← (slot report member).2.2.1, ← (slot other member').2.2.1, same]

theorem Server.step_cases {server next : Server BUFF_LEN} {reports : List Report}
    (sound : Sound server.table) (intact : server.crashed = false)
    (stepped : server.step reports = some next) : Halfway [] next := by
  rw [Server.step, Option.ite_none_right_eq_some] at stepped
  obtain ⟨valid, stepped⟩ := stepped
  have halfway := halfway_of_batched sound intact valid
  rcases halfway.after_dispatchEvents with ⟨last, ran⟩ | ⟨last, ran, kept⟩
  · rw [ran] at stepped
    contradiction
  · rw [ran] at stepped
    cases stepped
    exact kept

/-- From `start_server` on, the slots, the interest list and the open descriptors agree
between any two callbacks, and every callback is made on a slot in use that nothing
has touched since its batch was reported. -/
theorem orderly_from_start {descriptors : Descriptors} {socket bind efd : Int}
    {state : State BUFF_LEN}
    (started : (startServer socket bind efd).run (boot descriptors) = .ok true state)
    (batches : List (List Report)) :
    Agrees state ∧ Runs.Always Server.step Orderly ⟨state, [], false⟩ batches := by
  have sound : Sound state := by
    obtain ⟨free, fresh, rfl⟩ := listening_of_started started
    apply sound_listening
    rw [Descriptors.denotes_grant_of_denotes fresh Descriptors.denotes_grant_self]
    simp
  refine ⟨sound.agrees, ?_⟩
  have always : Runs.Always Server.step (Halfway []) ⟨state, [], false⟩ batches := by
    have start : Halfway [] ⟨state, [], false⟩ :=
      ⟨sound, rfl, by simp, by simp, by simp, by simp, .nil⟩
    generalize (⟨state, [], false⟩ : Server BUFF_LEN) = server at start
    induction batches generalizing server with
    | nil => trivial
    | cons reports rest ih =>
        intro next stepped
        have kept := Server.step_cases start.sound start.intact stepped
        exact ⟨kept, ih next kept⟩
  exact always.mono fun server halfway => halfway.orderly

theorem orderly_after_first_connection :
    let answers : Answers := ⟨.ok 5, 0, 0, .ok [1, 2], .ok 2⟩
    let state := listening ((Descriptors.empty.grant 3).grant 4) 3
    (startServer 3 0 4).run (boot .empty) = .ok true state ∧ Agrees state ∧
      Runs.Always Server.step Orderly ⟨state, [], false⟩
        [[⟨3, Epoll.EPOLLIN, MAX_EVENTS, answers, answers⟩],
          [⟨5, Epoll.EPOLLIN, 0, answers, answers⟩]] := by
  have started : (startServer 3 0 4).run (boot .empty) =
      .ok true (listening ((Descriptors.empty.grant 3).grant 4) 3) :=
    run_startServer (by decide) (by decide) (by decide)
  exact ⟨started, orderly_from_start started _⟩

end SimpleEpoll

end TestReactor
