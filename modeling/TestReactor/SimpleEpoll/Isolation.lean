import Mathlib.Data.List.Forall2
import TestReactor.SimpleEpoll.Leak

namespace TestReactor

/-! What goes over each connection: slots and descriptors are used again and again, and a
peer is never sent what another one has sent. -/

namespace SimpleEpoll

/-- What has been received on a connection, `recv` by `recv`, and what each `handle_send`
has sent.  The last of each may be nothing, when it closes the connection. -/
structure Traffic where
  received : List (List UInt8)
  sent : List (List UInt8)
  deriving DecidableEq, Repr

inductive Transfer where
  | nothing
  | received (data : List UInt8)
  | sent (data : List UInt8)
  deriving DecidableEq, Repr

namespace Traffic

def none : Traffic := ⟨[], []⟩

def after (traffic : Traffic) : Transfer → Traffic
  | .nothing => traffic
  | .received data => { traffic with received := traffic.received ++ [data] }
  | .sent data => { traffic with sent := traffic.sent ++ [data] }

/-- All that is sent are the chunks received, each up to some byte, in their order; at most
the last one has not been sent yet. -/
structure Echoes (traffic : Traffic) : Prop where
  pending : traffic.received.length ≤ traffic.sent.length + 1
  prefixes : List.Forall₂ (· <+: ·) traffic.sent (traffic.received.take traffic.sent.length)

end Traffic

/-- `ev->call_back(ev->fd, events, ev->arg)`, with what it transfers. -/
def transfer (answers : Answers) (event : Event size) : Method size Transfer :=
  match event.callBack with
  | none => Exec.raise .fault
  | some .handleAccept => (fun _ => .nothing) <$> handleAccept answers
  | some .handleRecv => .received <$> handleRecv answers.recv event.fd event.arg
  | some .handleSend => .sent <$> handleSend answers.send event.fd event.arg

theorem run_invoke_of_transfer {state next : State size} {answers : Answers}
    {event : Event size} {transfer : Transfer}
    (ran : (SimpleEpoll.transfer answers event).run state = .ok transfer next) :
    (invoke answers event).run state = .ok () next := by
  have mapped : (fun _ => ()) <$> SimpleEpoll.transfer answers event = invoke answers event := by
    unfold SimpleEpoll.transfer invoke Registrar.invoke
    cases event.callBack with
    | none => rfl
    | some callBack => cases callBack <;> simp [handleAccept, handleRecv, handleSend]
  rw [← mapped, Exec.run_map, ran]

structure Wire where
  table : State BUFF_LEN
  traffic : Nat → Traffic

namespace Wire

def carry (wire : Wire) (opening : Option Nat) (transfer : Transfer) (other : Nat) : Traffic :=
  if opening = some other then (wire.traffic other).after transfer else wire.traffic other

@[simp] theorem carry_self (wire : Wire) (opening : Nat) (transfer : Transfer) :
    wire.carry (some opening) transfer opening = (wire.traffic opening).after transfer :=
  if_pos rfl

theorem carry_of_ne {wire : Wire} {opening other : Nat} (different : other ≠ opening)
    (transfer : Transfer) :
    wire.carry (some opening) transfer other = wire.traffic other :=
  if_neg fun same => different (Option.some.inj same).symm

/-- A callback on a slot in use.  What it transfers goes over the connection that the
descriptor of the slot denotes. -/
def step (wire : Wire) (occurrence : Occurrence) : Option Wire :=
  let event := wire.table.events occurrence.ev
  if Ledger.admits ⟨wire.table, [], []⟩ occurrence then
    match (transfer occurrence.answers event).run wire.table with
    | .ok transfer next =>
        some ⟨next, wire.carry (wire.table.descriptors.denotes event.fd) transfer⟩
    | .error _ _ => none
  else none

def Isolated (wire : Wire) : Prop := ∀ opening, (wire.traffic opening).Echoes

end Wire

def Event.Stands (event : Event size) (ev : Nat) (traffic : Traffic) : Prop :=
  event.Receives ∧ traffic.received.length = traffic.sent.length ∨
    ∃ older chunk, event.Holds ev chunk ∧ traffic.received = older ++ [chunk] ∧
      older.length = traffic.sent.length

structure Private (wire : Wire) : Prop where
  sound : Sound wire.table
  numbered : Numbered wire.table.descriptors
  echoes : wire.Isolated
  fresh : ∀ opening, wire.table.descriptors.openings ≤ opening →
    wire.traffic opening = .none
  slots : ∀ ev < MAX_EVENTS, (wire.table.events ev).status = 1 → ∀ opening,
    wire.table.descriptors.denotes (wire.table.events ev).fd = some opening →
      (wire.table.events ev).Stands ev (wire.traffic opening)

namespace Traffic

variable {traffic : Traffic} {chunk data : List UInt8} {older : List (List UInt8)}

theorem Echoes.received (echoes : traffic.Echoes)
    (even : traffic.received.length = traffic.sent.length) (data : List UInt8) :
    (traffic.after (.received data)).Echoes where
  pending := by simp [after, even]
  prefixes := by
    have prefixes := echoes.prefixes
    rw [← even, List.take_length] at prefixes
    simpa [after, ← even] using prefixes

theorem Echoes.sent (echoes : traffic.Echoes) (last : traffic.received = older ++ [chunk])
    (behind : older.length = traffic.sent.length) (front : data <+: chunk) :
    (traffic.after (.sent data)).Echoes where
  pending := by simp [after, last, behind]
  prefixes := by
    have prefixes := echoes.prefixes
    rw [last, ← behind, List.take_left] at prefixes
    have whole : (older ++ [chunk]).take (traffic.sent ++ [data]).length = older ++ [chunk] :=
      List.take_of_length_le (by simp [behind])
    rw [after, last, whole]
    exact List.rel_append prefixes (.cons front .nil)

end Traffic

section

variable {wire : Wire} {ev : Nat}

theorem Private.changed (guarded : Private wire) (connection : ev < MAX_EVENTS)
    (listed : (wire.table.events ev).status = 1) {opening : Nat}
    (denotes : wire.table.descriptors.denotes (wire.table.events ev).fd = some opening)
    {next : State BUFF_LEN} {event : Event BUFF_LEN} {transfer : Transfer} (sound : Sound next)
    (numbered : Numbered next.descriptors)
    (openings : next.descriptors.openings = wire.table.descriptors.openings)
    (still : ∀ fd other, next.descriptors.denotes fd = some other →
      wire.table.descriptors.denotes fd = some other)
    (events : ∀ other, next.events other =
      if other = ev then event else wire.table.events other)
    (stands : event.status = 0 ∨ event.fd = (wire.table.events ev).fd ∧
      event.Stands ev ((wire.traffic opening).after transfer))
    (echoes : ((wire.traffic opening).after transfer).Echoes) :
    Private ⟨next, wire.carry (some opening) transfer⟩ where
  sound := sound
  numbered := numbered
  echoes other := by
    rcases eq_or_ne other opening with rfl | different
    · simpa using echoes
    · simpa only [Wire.carry_of_ne different] using guarded.echoes other
  fresh other later := by
    rw [openings] at later
    have different : other ≠ opening := by
      rintro rfl
      exact absurd (guarded.numbered.below _ _ denotes) (Nat.not_lt.mpr later)
    simpa only [Wire.carry_of_ne different] using guarded.fresh other later
  slots other within status last held := by
    have before := still _ _ held
    rw [events] at status held before ⊢
    split at status
    case isTrue same =>
      rw [if_pos same] at before ⊢
      rcases stands with free | ⟨same_fd, stands⟩
      · rw [free] at status
        exact absurd status (by decide)
      · rw [same_fd, denotes] at before
        cases before
        simpa [same] using stands
    case isFalse different =>
      rw [if_neg different] at before ⊢
      have apart : last ≠ opening := by
        rintro rfl
        have same_fd := guarded.numbered.distinct _ _ _ before denotes
        exact different (guarded.sound.distinct (Nat.le_of_lt within) (Nat.le_of_lt connection)
          status listed same_fd)
      simpa only [Wire.carry_of_ne apart] using guarded.slots other within status last before

theorem Private.rearmed (guarded : Private wire) (connection : ev < MAX_EVENTS)
    (listed : (wire.table.events ev).status = 1) {opening : Nat}
    (denotes : wire.table.descriptors.denotes (wire.table.events ev).fd = some opening)
    {event : Event BUFF_LEN} {transfer : Transfer}
    (sound : Sound (wire.table.rearmed ev event)) (same : event.fd = (wire.table.events ev).fd)
    (stands : event.Stands ev ((wire.traffic opening).after transfer))
    (echoes : ((wire.traffic opening).after transfer).Echoes) :
    Private ⟨wire.table.rearmed ev event, wire.carry (some opening) transfer⟩ :=
  guarded.changed connection listed denotes sound guarded.numbered rfl (fun _ _ held => held)
    (fun _ => rfl) (.inr ⟨same, stands⟩) echoes

theorem Private.shut (guarded : Private wire) (connection : ev < MAX_EVENTS)
    (listed : (wire.table.events ev).status = 1) {opening : Nat}
    (denotes : wire.table.descriptors.denotes (wire.table.events ev).fd = some opening)
    {event : Event BUFF_LEN} {transfer : Transfer}
    (sound : Sound (wire.table.shut ev event)) (free : event.status = 0)
    (echoes : ((wire.traffic opening).after transfer).Echoes) :
    Private ⟨wire.table.shut ev event, wire.carry (some opening) transfer⟩ :=
  guarded.changed connection listed denotes sound (guarded.numbered.close event.fd) rfl
    (fun _ _ held => (Descriptors.denotes_of_close held).2) (fun _ => rfl) (.inl free) echoes

theorem Private.transferred (guarded : Private wire) (connection : ev < MAX_EVENTS)
    (listed : (wire.table.events ev).status = 1) {answers : Answers} {transfer : Transfer}
    {next : State BUFF_LEN} (sound : Sound next)
    (ran : (SimpleEpoll.transfer answers (wire.table.events ev)).run wire.table =
      .ok transfer next) :
    Private ⟨next,
      wire.carry (wire.table.descriptors.denotes (wire.table.events ev).fd) transfer⟩ := by
  obtain ⟨opening, denotes⟩ := guarded.sound.denotes (Nat.le_of_lt connection) listed
  have arg := (guarded.sound.waits connection listed).1
  rw [denotes]
  have echoes := guarded.echoes opening
  rcases guarded.slots ev connection listed opening denotes with
    ⟨receives, even⟩ | ⟨older, chunk, holds, last, behind⟩
  · rw [SimpleEpoll.transfer, receives.1, arg, Exec.run_map] at ran
    rcases run_handleRecv receives (wire.table.events ev).fd answers.recv with
      ⟨chunk, event, received, holds, same⟩ | ⟨event, received, free, same⟩
    · rw [received] at ran
      cases ran
      exact guarded.rearmed connection listed denotes sound same
        (.inr ⟨_, chunk, holds, rfl, even⟩) (echoes.received even chunk)
    · rw [received] at ran
      cases ran
      exact guarded.shut connection listed denotes sound free (echoes.received even [])
  · have offered : (wire.table.events ev).offered ≤ chunk.length := by
      rw [holds.offered]
      split <;> omega
    rw [SimpleEpoll.transfer, holds.sends.1, arg, Exec.run_map] at ran
    rcases run_handleSend holds offered (wire.table.events ev).fd answers.send with
      ⟨count, event, -, -, sent, receives, -, same⟩ | ⟨-, event, sent, free, same⟩
    · rw [sent] at ran
      cases ran
      refine guarded.rearmed connection listed denotes sound same (.inl ⟨receives, ?_⟩)
        (echoes.sent last behind (List.take_prefix _ _))
      simp [Traffic.after, last, behind]
    · rw [sent] at ran
      cases ran
      exact guarded.shut connection listed denotes sound free
        (echoes.sent last behind (List.nil_prefix))

theorem accepted_of_handleAccept {state next : State size} {answers : Answers}
    (ran : (handleAccept answers).run state = .ok () next) :
    next = state ∨ ∃ cfd, state.descriptors.Free cfd ∧
      let granted := { state with descriptors := state.descriptors.grant cfd }
      next = granted ∨ ∃ slot, freeSlot state = some slot ∧ next = granted.armed slot
        ((state.events slot).registered slot cfd .handleRecv Epoll.EPOLLIN) := by
  cases answer : answers.accept with
  | error errno =>
      rw [run_handleAccept_of_error answer] at ran
      cases ran
      exact .inl rfl
  | ok cfd =>
      by_cases free : state.descriptors.Free cfd
      case neg =>
        rw [run_handleAccept_of_taken answer free] at ran
        contradiction
      refine .inr ⟨cfd, free, ?_⟩
      by_cases homeless : freeSlot state = none ∨ setNonBlock answers.flags answers.r = false
      · rw [run_handleAccept_of_homeless answer free homeless] at ran
        cases ran
        exact .inl rfl
      · obtain ⟨housed, blocking⟩ := not_or.mp homeless
        obtain ⟨slot, vacant⟩ := Option.ne_none_iff_exists'.mp housed
        rw [run_handleAccept_of_housed answer free vacant (eq_true_of_ne_false blocking)] at ran
        cases ran
        exact .inr ⟨slot, vacant, rfl⟩

theorem Private.granted (guarded : Private wire) {cfd : Int}
    (free : wire.table.descriptors.Free cfd) :
    Private { wire with
      table := { wire.table with descriptors := wire.table.descriptors.grant cfd } } where
  sound := guarded.sound.granted free
  numbered := guarded.numbered.grant cfd
  echoes := guarded.echoes
  fresh other later := guarded.fresh other (Nat.le_of_succ_le later)
  slots ev within listed opening held := by
    obtain ⟨before, denotes⟩ := guarded.sound.denotes (Nat.le_of_lt within) listed
    have still := Descriptors.denotes_grant_of_denotes free denotes
    cases still.symm.trans held
    exact guarded.slots ev within listed _ denotes

theorem Private.armed (guarded : Private wire) {slot : Nat} {cfd : Int} {opening : Nat}
    (denotes : wire.table.descriptors.denotes cfd = some opening)
    (quiet : wire.traffic opening = .none) {event : Event BUFF_LEN}
    (receives : event.Receives) (same : event.fd = cfd)
    (sound : Sound (wire.table.armed slot event)) :
    Private { wire with table := wire.table.armed slot event } where
  sound := sound
  numbered := guarded.numbered
  echoes := guarded.echoes
  fresh := guarded.fresh
  slots ev within listed last held := by
    rcases eq_or_ne ev slot with rfl | different
    · simp only [State.events_armed, same] at held ⊢
      cases denotes.symm.trans held
      exact .inl ⟨receives, by simp [quiet, Traffic.none]⟩
    · have others : (wire.table.armed slot event).events ev = wire.table.events ev :=
        State.events_put_of_ne different event
      simp only [others] at listed held ⊢
      exact guarded.slots ev within listed last held

theorem Wire.carry_nothing (wire : Wire) (opening : Option Nat) :
    wire.carry opening .nothing = wire.traffic := by
  funext other
  exact ite_self _

theorem Private.accepted (guarded : Private wire) {answers : Answers} {next : State BUFF_LEN}
    (sound : Sound next) (ran : (handleAccept answers).run wire.table = .ok () next) :
    Private { wire with table := next } := by
  rcases accepted_of_handleAccept ran with rfl | ⟨cfd, free, rfl | ⟨slot, -, rfl⟩⟩
  · exact guarded
  · exact guarded.granted free
  · exact (guarded.granted free).armed Descriptors.denotes_grant_self
      (guarded.fresh _ (Nat.le_refl _)) ⟨rfl, rfl, rfl⟩ rfl sound

/-- The step lemma: a callback on a slot in use. -/
theorem Private.step (guarded : Private wire) {occurrence : Occurrence} {next : Wire}
    (stepped : wire.step occurrence = some next) : Private next := by
  obtain ⟨admitted, stepped⟩ := Option.ite_none_right_eq_some.mp stepped
  simp only [Ledger.admits, Bool.and_eq_true, decide_eq_true_eq] at admitted
  obtain ⟨⟨within, listed⟩, -⟩ := admitted
  split at stepped
  case h_2 => contradiction
  next transfer table ran =>
    cases stepped
    have sound : Sound table := by
      have invoked := run_invoke_of_transfer ran
      rcases run_invoke guarded.sound within listed occurrence.answers with
        ⟨blocked, -⟩ | ⟨_, returned, effect⟩
      · rw [blocked] at invoked
        contradiction
      · cases returned.symm.trans invoked
        exact guarded.sound.effect listed effect
    rcases Nat.lt_or_eq_of_le within with connection | last
    · exact guarded.transferred connection listed sound ran
    · have accepts := guarded.sound.listening.2.1
      rw [← last] at accepts
      rw [SimpleEpoll.transfer, accepts, Exec.run_map] at ran
      split at ran
      case h_2 => contradiction
      next accepted =>
        cases ran
        rw [Wire.carry_nothing]
        exact guarded.accepted sound accepted

theorem private_start {descriptors : Descriptors} {socket bind efd : Int}
    {state : State BUFF_LEN} (numbered : Numbered descriptors)
    (started : (startServer socket bind efd).run (boot descriptors) = .ok true state) :
    Private ⟨state, fun _ => .none⟩ := by
  have accounted := accounted_start numbered started
  obtain ⟨-, -, rfl⟩ := listening_of_started started
  refine ⟨accounted.sound, accounted.numbered, fun _ => ⟨Nat.zero_le _, .nil⟩, fun _ _ => rfl, ?_⟩
  intro ev within listed
  have unused : (listening ((descriptors.grant socket).grant efd) socket).events ev =
    .zero BUFF_LEN := State.events_put_of_ne (Nat.ne_of_lt within) _
  simp only [unused] at listed
  exact absurd listed (by decide)

/-- Whatever `accept`, `fcntl`, `recv` and `send` answer and in whatever order the slots in use
are called back: each connection is only ever sent the chunks received on it, in their order
and each up to some byte, though slots, their buffers and descriptors go to other connections. -/
theorem each_peer_hears_itself {descriptors : Descriptors} {socket bind efd : Int}
    {state : State BUFF_LEN} (numbered : Numbered descriptors)
    (started : (startServer socket bind efd).run (boot descriptors) = .ok true state)
    (occurrences : List Occurrence) :
    Runs.Always Wire.step Wire.Isolated ⟨state, fun _ => .none⟩ occurrences :=
  (Runs.always_of_keeps (fun _ _ _ guarded stepped => Private.step guarded stepped)
    (private_start numbered started)).mono fun _ guarded => guarded.echoes

end

/-- Two connections, one after the other on the same slot and descriptor.  A byte of the first
is dropped; the second is not sent it. -/
theorem each_peer_hears_itself_on_one_descriptor :
    let state := listening ((Descriptors.empty.grant 3).grant 4) 3
    let accepts : Occurrence := ⟨MAX_EVENTS, ⟨.ok 5, 0, 0, .ok [], .ok 0⟩⟩
    let exchanges (data : List UInt8) : Occurrence := ⟨0, ⟨.error 0, 0, 0, .ok data, .ok 1⟩⟩
    let occurrences := [accepts, exchanges [1, 2], exchanges [], exchanges [], accepts,
      exchanges [3], exchanges []]
    ((Runs.exec Wire.step ⟨state, fun _ => .none⟩ occurrences).map fun wire =>
        (wire.traffic 2, wire.traffic 3)) = some (⟨[[1, 2], []], [[1]]⟩, ⟨[[3]], [[3]]⟩) ∧
      Runs.Always Wire.step Wire.Isolated ⟨state, fun _ => .none⟩ occurrences := by
  have started : (startServer 3 0 4).run (boot .empty) =
      .ok true (listening ((Descriptors.empty.grant 3).grant 4) 3) :=
    run_startServer (by decide) (by decide) (by decide)
  exact ⟨by decide +kernel, each_peer_hears_itself numbered_empty started _⟩

end SimpleEpoll

end TestReactor
