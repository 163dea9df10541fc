import TestReactor.Runs
import TestReactor.SimpleEpoll.Server
import TestReactor.SimpleEpoll.Spec

namespace TestReactor

/-! How the slots, the interest list and the open descriptors hang together. -/

namespace Epoll

variable {epoll : Epoll Data} {fd : Int}

/-- A kernel that grants what the interest list allows, and knows of no closed descriptor. -/
structure Strict (epoll : Epoll Data) : Prop where
  refusal : epoll.refusal = Epoll.strict
  unclosed : ∀ fd, epoll.closed fd = false

theorem Strict.ctl_add (strict : epoll.Strict) (absent : epoll.interest fd = none)
    (event : Event Data) :
    epoll.ctl .add fd event = { epoll with calls := epoll.calls + 1 }.set fd (some event) := by
  have granted : epoll.refused .add fd = none := by
    rw [refused_add, strict.refusal, absent]
    rfl
  simp [ctl, granted]

theorem Strict.ctl_del (strict : epoll.Strict) {entry : Event Data}
    (present : epoll.interest fd = some entry) (event : Event Data) :
    epoll.ctl .del fd event = { epoll with calls := epoll.calls + 1 }.set fd none := by
  have granted : epoll.refused .del fd = none := by
    rw [refused_of_open (strict.unclosed fd), strict.refusal, present]
    rfl
  simp [ctl, granted]

theorem Strict.set (strict : epoll.Strict) (fd : Int) (entry : Option (Event Data)) :
    (epoll.set fd entry).Strict where
  refusal := strict.refusal
  unclosed other := by simp [Epoll.set, strict.unclosed]

theorem Strict.counted (strict : epoll.Strict) (calls : Nat) :
    { epoll with calls := calls }.Strict := ⟨strict.refusal, strict.unclosed⟩

end Epoll

namespace SimpleEpoll

/-- A connection slot in use: it waits to receive, or has a chunk to send. -/
def Event.Waits (event : Event size) (ev : Nat) : Prop :=
  event.arg = some ev ∧ (event.Receives ∨ ∃ chunk, event.Holds ev chunk)

theorem Event.Waits.listed {event : Event size} {ev : Nat} (waits : event.Waits ev) :
    event.status = 1 := by
  rcases waits.2 with receives | ⟨chunk, holds⟩
  · exact receives.2.1
  · exact holds.sends.2.1

/-- The table between two callbacks: the slots in use, the interest list and the open
descriptors name one another. -/
structure Sound (state : State BUFF_LEN) : Prop where
  strict : state.epoll.Strict
  listening : (state.events MAX_EVENTS).status = 1 ∧
    (state.events MAX_EVENTS).callBack = some .handleAccept ∧
    (state.events MAX_EVENTS).events = Epoll.EPOLLIN
  slots : ∀ ev < MAX_EVENTS, (state.events ev).status = 0 ∨ (state.events ev).Waits ev
  owned : ∀ fd entry, state.epoll.interest fd = some entry →
    entry.data ≤ MAX_EVENTS ∧ (state.events entry.data).status = 1 ∧
      (state.events entry.data).fd = fd ∧ (state.events entry.data).events = entry.events
  listed : ∀ ev ≤ MAX_EVENTS, (state.events ev).status = 1 →
    state.epoll.interest (state.events ev).fd = some ⟨(state.events ev).events, ev⟩
  opened : ∀ fd, state.epoll.interest fd ≠ none → state.descriptors.denotes fd ≠ none

/-- What a callback on the slot `ev` makes of the table.  A connection that `accept`
returns is granted its descriptor, and its slot if there is one to be had. -/
inductive Effect (state : State BUFF_LEN) (ev : Nat) (answers : Answers) :
    State BUFF_LEN → Prop
  | rearmed (event : Event BUFF_LEN) (connection : ev < MAX_EVENTS) (waits : event.Waits ev)
      (same : event.fd = (state.events ev).fd) :
      Effect state ev answers (state.rearmed ev event)
  | shut (event : Event BUFF_LEN) (connection : ev < MAX_EVENTS) (free : event.status = 0)
      (same : event.fd = (state.events ev).fd) : Effect state ev answers (state.shut ev event)
  | none (failed : ∀ cfd, answers.accept ≠ .ok cfd) : Effect state ev answers state
  | granted (cfd : Int) (free : state.descriptors.Free cfd)
      (accepts : (state.events ev).callBack = some .handleAccept)
      (answered : answers.accept = .ok cfd)
      (homeless : freeSlot state = Option.none ∨ setNonBlock answers.flags answers.r = false) :
      Effect state ev answers { state with descriptors := state.descriptors.grant cfd }
  | accepted (cfd : Int) (free : state.descriptors.Free cfd) (slot : Nat)
      (vacant : freeSlot state = some slot)
      (blocking : setNonBlock answers.flags answers.r = true) (event : Event BUFF_LEN)
      (waits : event.Waits slot) (same : event.fd = cfd) :
      Effect state ev answers
        (State.armed { state with descriptors := state.descriptors.grant cfd } slot event)

section

variable {state next : State BUFF_LEN} {ev : Nat}

theorem freeSlot_eq_some {slot : Nat} (vacant : freeSlot state = some slot) :
    slot < MAX_EVENTS ∧ (state.events slot).status = 0 := by
  have found := List.find?_some vacant
  have member := List.mem_of_find?_eq_some vacant
  exact ⟨List.mem_range.mp member, of_decide_eq_true found⟩

theorem run_grant (cfd : Int) (state : State size) :
    (grant cfd).run state =
      if state.descriptors.Free cfd then
        .ok () { state with descriptors := state.descriptors.grant cfd }
      else .error .blocked state := by
  simp only [grant, EStateM.run_bind, EStateM.run_get, Exec.run_ite]
  split <;> rfl

section

variable {state : State size} {answers : Answers} {cfd : Int}

theorem run_handleAccept_of_error {errno : Nat} (answer : answers.accept = .error errno) :
    (handleAccept answers).run state = .ok () state := by
  rw [handleAccept, Registrar.handleAccept, answer]
  rfl

theorem run_handleAccept_of_taken (answer : answers.accept = .ok cfd)
    (taken : ¬ state.descriptors.Free cfd) :
    (handleAccept answers).run state = .error .blocked state := by
  have refused := run_grant cfd state
  rw [if_neg taken] at refused
  simp only [handleAccept, Registrar.handleAccept, onTable_registrar, answer,
    EStateM.run_bind, refused]

/-- Without a slot to be had, or when `fcntl` fails, nobody keeps the descriptor. -/
theorem run_handleAccept_of_homeless (answer : answers.accept = .ok cfd)
    (free : state.descriptors.Free cfd)
    (homeless : freeSlot state = none ∨ setNonBlock answers.flags answers.r = false) :
    (handleAccept answers).run state =
      .ok () { state with descriptors := state.descriptors.grant cfd } := by
  have granted := run_grant cfd state
  rw [if_pos free] at granted
  have found : freeSlot { state with descriptors := state.descriptors.grant cfd } =
    freeSlot state := rfl
  simp only [handleAccept, Registrar.handleAccept, onTable_registrar, answer,
    EStateM.run_bind, granted, EStateM.run_get, found]
  cases vacant : freeSlot state with
  | none => rfl
  | some slot =>
      have blocking := homeless.resolve_left (by simp [vacant])
      simp only [blocking]
      rfl

theorem run_handleAccept_of_housed (answer : answers.accept = .ok cfd)
    (free : state.descriptors.Free cfd) {slot : Nat} (vacant : freeSlot state = some slot)
    (blocking : setNonBlock answers.flags answers.r = true) :
    (handleAccept answers).run state =
      .ok () (State.armed { state with descriptors := state.descriptors.grant cfd } slot
        ((state.events slot).registered slot cfd .handleRecv Epoll.EPOLLIN)) := by
  have granted := run_grant cfd state
  rw [if_pos free] at granted
  have found : freeSlot { state with descriptors := state.descriptors.grant cfd } =
    some slot := vacant
  simp only [handleAccept, Registrar.handleAccept, onTable_registrar, eventAdd_registrar,
    answer, EStateM.run_bind, granted, EStateM.run_get, found, blocking, Exec.run_when_true,
    EStateM.run_modify, State.eventAdd_setEvent]

end

theorem run_handleAccept (answers : Answers)
    (accepts : (state.events ev).callBack = some .handleAccept) :
    ((handleAccept answers).run state = .error .blocked state ∧
        ∃ cfd, answers.accept = .ok cfd ∧ ¬ state.descriptors.Free cfd) ∨
      ∃ next, (handleAccept answers).run state = .ok () next ∧
        Effect state ev answers next := by
  cases answer : answers.accept with
  | error errno =>
      exact .inr ⟨state, run_handleAccept_of_error answer, .none (by simp [answer])⟩
  | ok cfd =>
      by_cases free : state.descriptors.Free cfd
      case neg => exact .inl ⟨run_handleAccept_of_taken answer free, cfd, rfl, free⟩
      have unhoused
          (homeless : freeSlot state = none ∨ setNonBlock answers.flags answers.r = false) :
          ∃ next, (handleAccept answers).run state = .ok () next ∧
            Effect state ev answers next :=
        ⟨_, run_handleAccept_of_homeless answer free homeless,
          .granted cfd free accepts answer homeless⟩
      right
      cases vacant : freeSlot state with
      | none => exact unhoused (.inl vacant)
      | some slot =>
          cases blocking : setNonBlock answers.flags answers.r with
          | false => exact unhoused (.inr blocking)
          | true =>
              exact ⟨_, run_handleAccept_of_housed answer free vacant blocking,
                .accepted cfd free slot vacant blocking _ ⟨rfl, .inl ⟨rfl, rfl, rfl⟩⟩ rfl⟩

theorem Sound.waits (sound : Sound state) (connection : ev < MAX_EVENTS)
    (listed : (state.events ev).status = 1) : (state.events ev).Waits ev :=
  (sound.slots ev connection).resolve_left (by rw [listed]; decide)

/-- A callback on a slot in use comes back, unless it is answered with a descriptor that
is in use. -/
theorem run_invoke (sound : Sound state) (within : ev ≤ MAX_EVENTS)
    (listed : (state.events ev).status = 1) (answers : Answers) :
    ((invoke answers (state.events ev)).run state = .error .blocked state ∧
        ∃ cfd, answers.accept = .ok cfd ∧ ¬ state.descriptors.Free cfd) ∨
      ∃ next, (invoke answers (state.events ev)).run state = .ok () next ∧
        Effect state ev answers next := by
  rcases Nat.lt_or_eq_of_le within with connection | rfl
  · right
    obtain ⟨arg, receives | ⟨chunk, holds⟩⟩ := sound.waits connection listed
    · rcases run_handleRecv receives (state.events ev).fd answers.recv with
        ⟨chunk, event, ran, holds, same⟩ | ⟨event, ran, free, same⟩
      · refine ⟨_, ?_, .rearmed event connection ⟨holds.arg, .inr ⟨chunk, holds⟩⟩ same⟩
        rw [invoke_handleRecv receives.1, arg, Exec.run_map, ran]
      · refine ⟨_, ?_, .shut event connection free same⟩
        rw [invoke_handleRecv receives.1, arg, Exec.run_map, ran]
    · have offered : (state.events ev).offered ≤ chunk.length := by
        rw [holds.offered]
        split <;> omega
      rcases run_handleSend holds offered (state.events ev).fd answers.send with
        ⟨count, event, -, -, ran, receives, arg', same⟩ | ⟨-, event, ran, free, same⟩
      · refine ⟨_, ?_, .rearmed event connection ⟨arg', .inl receives⟩ same⟩
        rw [invoke_handleSend holds.sends.1, arg, Exec.run_map, ran]
      · refine ⟨_, ?_, .shut event connection free same⟩
        rw [invoke_handleSend holds.sends.1, arg, Exec.run_map, ran]
  · rw [invoke_handleAccept sound.listening.2.1]
    exact run_handleAccept answers sound.listening.2.1

theorem Sound.distinct (sound : Sound state) {other : Nat} (within : ev ≤ MAX_EVENTS)
    (within' : other ≤ MAX_EVENTS) (listed : (state.events ev).status = 1)
    (listed' : (state.events other).status = 1)
    (same : (state.events ev).fd = (state.events other).fd) : ev = other := by
  have held := sound.listed ev within listed
  rw [same, sound.listed other within' listed'] at held
  exact (congrArg Epoll.Event.data (Option.some.inj held)).symm

theorem Sound.denotes (sound : Sound state) (within : ev ≤ MAX_EVENTS)
    (listed : (state.events ev).status = 1) :
    ∃ opening, state.descriptors.denotes (state.events ev).fd = some opening := by
  apply Option.ne_none_iff_exists'.mp
  apply sound.opened
  rw [sound.listed ev within listed]
  simp

theorem Sound.changed (sound : Sound state) (connection : ev < MAX_EVENTS)
    {event : Event BUFF_LEN}
    (events : ∀ other, next.events other = if other = ev then event else state.events other)
    (shape : event.status = 0 ∨ event.Waits ev)
    (interest : ∀ fd, next.epoll.interest fd =
      if fd = event.fd then if event.status = 1 then some ⟨event.events, ev⟩ else none
      else state.epoll.interest fd)
    (mine : ∀ entry, state.epoll.interest event.fd = some entry → entry.data = ev)
    (own : (state.events ev).status = 1 → (state.events ev).fd = event.fd)
    (strict : next.epoll.Strict)
    (opened : ∀ fd, next.epoll.interest fd ≠ none → next.descriptors.denotes fd ≠ none) :
    Sound next where
  strict := strict
  listening := by
    rw [events, if_neg (Nat.ne_of_gt connection)]
    exact sound.listening
  slots := by
    intro other within
    rw [events]
    split
    case isTrue same =>
      rw [same]
      exact shape
    case isFalse => exact sound.slots other within
  owned := by
    intro fd entry held
    rw [interest] at held
    split at held
    case isTrue same =>
      split at held
      case isTrue listed =>
        cases held
        rw [events, if_pos rfl]
        exact ⟨Nat.le_of_lt connection, listed, same.symm, rfl⟩
      case isFalse => contradiction
    case isFalse different =>
      obtain ⟨within, listed, same, mask⟩ := sound.owned fd entry held
      have other : entry.data ≠ ev := by
        intro same_slot
        rw [same_slot] at listed same
        exact different (same.symm.trans (own listed))
      rw [events, if_neg other]
      exact ⟨within, listed, same, mask⟩
  listed := by
    intro other within status
    rw [events] at status ⊢
    split
    case isTrue same =>
      rw [if_pos same] at status
      rw [interest, if_pos rfl, if_pos status, same]
    case isFalse different =>
      rw [if_neg different] at status
      have held := sound.listed other within status
      have apart : (state.events other).fd ≠ event.fd := by
        intro same
        rw [same] at held
        exact different (mine _ held)
      rw [interest, if_neg apart]
      exact held
  opened := opened

theorem Sound.slot_of_fd (sound : Sound state) (within : ev ≤ MAX_EVENTS)
    (listed : (state.events ev).status = 1) {entry : Epoll.Event Nat}
    (held : state.epoll.interest (state.events ev).fd = some entry) :
    entry = ⟨(state.events ev).events, ev⟩ := by
  rw [sound.listed ev within listed] at held
  exact (Option.some.inj held).symm

theorem Sound.rearmed (sound : Sound state) (connection : ev < MAX_EVENTS)
    (listed : (state.events ev).status = 1) {event : Event BUFF_LEN} (waits : event.Waits ev)
    (same : event.fd = (state.events ev).fd) : Sound (state.rearmed ev event) := by
  have within := Nat.le_of_lt connection
  have held := sound.listed ev within listed
  have removed := sound.strict.ctl_del held ⟨0, ev⟩
  have absent : (state.epoll.ctl .del (state.events ev).fd ⟨0, ev⟩).interest event.fd =
      none := by
    rw [removed, same]
    exact if_pos rfl
  have strict : (state.epoll.ctl .del (state.events ev).fd ⟨0, ev⟩).Strict := by
    rw [removed]
    exact (sound.strict.counted _).set _ none
  have added := strict.ctl_add absent ⟨event.events, ev⟩
  have interest : ∀ fd, (state.rearmed ev event).epoll.interest fd =
      if fd = event.fd then if event.status = 1 then some ⟨event.events, ev⟩ else none
      else state.epoll.interest fd := by
    intro fd
    rw [State.rearmed, added, removed, if_pos waits.listed]
    by_cases its : fd = event.fd
    · simp [Epoll.set, its]
    · simp [Epoll.set, its, same ▸ its]
  apply sound.changed connection (fun other => rfl) (.inr waits) interest
  · intro entry held
    rw [same] at held
    rw [sound.slot_of_fd within listed held]
  · exact fun _ => same.symm
  · rw [State.rearmed, added]
    exact (strict.counted _).set _ _
  · intro fd present
    rw [interest] at present
    split at present
    case isTrue its =>
      apply sound.opened
      rw [its, same, held]
      simp
    case isFalse => exact sound.opened fd present

theorem Sound.shut (sound : Sound state) (connection : ev < MAX_EVENTS)
    (listed : (state.events ev).status = 1) {event : Event BUFF_LEN} (free : event.status = 0)
    (same : event.fd = (state.events ev).fd) : Sound (state.shut ev event) := by
  have within := Nat.le_of_lt connection
  have held := sound.listed ev within listed
  have removed := sound.strict.ctl_del held ⟨0, ev⟩
  have idle : ¬ event.status = 1 := by
    rw [free]
    decide
  have interest : ∀ fd, (state.shut ev event).epoll.interest fd =
      if fd = event.fd then if event.status = 1 then some ⟨event.events, ev⟩ else none
      else state.epoll.interest fd := by
    intro fd
    rw [State.shut, removed, if_neg idle]
    by_cases its : fd = event.fd
    · simp [State.close, Epoll.set, its]
    · simp [State.close, Epoll.set, its, same ▸ its]
  apply sound.changed connection (fun other => rfl) (.inl free) interest
  · intro entry held
    rw [same] at held
    rw [sound.slot_of_fd within listed held]
  · exact fun _ => same.symm
  · rw [State.shut, removed]
    exact ((sound.strict.counted _).set _ none).set _ none
  · intro fd present
    rw [interest] at present
    split at present
    case isTrue => contradiction
    case isFalse other =>
      rw [State.shut, State.close, Descriptors.denotes_close_of_ne other]
      exact sound.opened fd present

theorem Sound.granted (sound : Sound state) {cfd : Int} (free : state.descriptors.Free cfd) :
    Sound { state with descriptors := state.descriptors.grant cfd } where
  strict := sound.strict
  listening := sound.listening
  slots := sound.slots
  owned := sound.owned
  listed := sound.listed
  opened := by
    intro fd present
    obtain ⟨opening, denotes⟩ := Option.ne_none_iff_exists'.mp (sound.opened fd present)
    rw [Descriptors.denotes_grant_of_denotes free denotes]
    simp

theorem Sound.accepted (sound : Sound state) {cfd : Int} {slot : Nat}
    (connection : slot < MAX_EVENTS) (vacant : (state.events slot).status = 0)
    (absent : state.epoll.interest cfd = none)
    (denoted : state.descriptors.denotes cfd ≠ none)
    {event : Event BUFF_LEN} (waits : event.Waits slot) (same : event.fd = cfd) :
    Sound (state.armed slot event) := by
  rw [← same] at absent denoted
  have added := sound.strict.ctl_add absent ⟨event.events, slot⟩
  have interest : ∀ fd, (state.armed slot event).epoll.interest fd =
      if fd = event.fd then if event.status = 1 then some ⟨event.events, slot⟩ else none
      else state.epoll.interest fd := by
    intro fd
    rw [State.armed, added, if_pos waits.listed]
    rfl
  apply sound.changed connection (fun other => rfl) (.inr waits) interest
  · intro entry held
    rw [absent] at held
    contradiction
  · intro listed
    rw [vacant] at listed
    exact absurd listed (by decide)
  · rw [State.armed, added]
    exact (sound.strict.counted _).set _ _
  · intro fd present
    rw [interest] at present
    split at present
    case isTrue its =>
      rw [its]
      exact denoted
    case isFalse => exact sound.opened fd present

/-- The step lemma: a callback on a slot in use keeps the table sound. -/
theorem Sound.effect {answers : Answers} (sound : Sound state)
    (listed : (state.events ev).status = 1) (effect : Effect state ev answers next) :
    Sound next := by
  cases effect with
  | rearmed event connection waits same => exact sound.rearmed connection listed waits same
  | shut event connection free same => exact sound.shut connection listed free same
  | none => exact sound
  | granted cfd free => exact sound.granted free
  | accepted cfd free slot vacant blocking event waits same =>
      obtain ⟨connection, unused⟩ := freeSlot_eq_some vacant
      have absent : state.epoll.interest cfd = Option.none := by
        cases present : state.epoll.interest cfd with
        | none => rfl
        | some entry => exact absurd free.2 (sound.opened cfd (by simp [present]))
      apply (sound.granted free).accepted connection unused absent _ waits same
      rw [Descriptors.denotes_grant_self]
      simp

theorem Effect.events_of_ne {answers : Answers} (effect : Effect state ev answers next)
    {other : Nat} (different : other ≠ ev) (listed : (state.events other).status = 1) :
    next.events other = state.events other := by
  cases effect with
  | rearmed event connection waits same => exact State.events_put_of_ne different event
  | shut event connection free same => exact State.events_put_of_ne different event
  | none => rfl
  | granted cfd free => rfl
  | accepted cfd free slot vacant blocking event waits same =>
      have unused := (freeSlot_eq_some vacant).2
      apply State.events_put_of_ne
      rintro rfl
      rw [unused] at listed
      exact absurd listed (by decide)

/-! The start. -/

def listening (descriptors : Descriptors) (listenFd : Int) : State BUFF_LEN :=
  (boot descriptors).armed MAX_EVENTS
    ((Event.zero BUFF_LEN).registered MAX_EVENTS listenFd .handleAccept Epoll.EPOLLIN)

theorem sound_listening {descriptors : Descriptors} {listenFd : Int}
    (denoted : descriptors.denotes listenFd ≠ none) :
    Sound (listening descriptors listenFd) := by
  have added : (listening descriptors listenFd).epoll =
      { Epoll.empty Epoll.strict with calls := 1 }.set listenFd
        (some ⟨Epoll.EPOLLIN, MAX_EVENTS⟩) := rfl
  have last : (listening descriptors listenFd).events MAX_EVENTS =
      (Event.zero BUFF_LEN).registered MAX_EVENTS listenFd .handleAccept Epoll.EPOLLIN :=
    State.events_armed _
  have others : ∀ ev, ev ≠ MAX_EVENTS →
      (listening descriptors listenFd).events ev = Event.zero BUFF_LEN := fun ev different =>
    State.events_put_of_ne different _
  constructor
  case strict =>
    rw [added]
    exact Epoll.Strict.set ⟨rfl, fun _ => rfl⟩ _ _
  case listening =>
    rw [last]
    exact ⟨rfl, rfl, rfl⟩
  case slots =>
    intro ev connection
    rw [others ev (Nat.ne_of_lt connection)]
    exact .inl rfl
  case owned =>
    intro fd entry held
    rw [added] at held
    simp only [Epoll.set, Epoll.empty] at held
    split at held
    case isTrue its =>
      cases held
      rw [last]
      exact ⟨Nat.le_refl _, rfl, its.symm, rfl⟩
    case isFalse => contradiction
  case listed =>
    intro ev within status
    by_cases its : ev = MAX_EVENTS
    · rw [its, last, added]
      exact if_pos rfl
    · rw [others ev its] at status
      exact absurd status (by decide)
  case opened =>
    intro fd present
    rw [added] at present
    simp only [Epoll.set, Epoll.empty] at present
    split at present
    case isTrue its =>
      rw [its]
      exact denoted
    case isFalse => contradiction

theorem run_opens (fd : Int) (state : State size) :
    (opens fd).run state =
      if 0 ≤ fd then
        if state.descriptors.Free fd then
          .ok fd { state with descriptors := state.descriptors.grant fd }
        else .error .blocked state
      else .ok fd state := by
  by_cases valid : 0 ≤ fd
  · by_cases free : state.descriptors.Free fd
    · simp [opens, valid, run_grant, free]
    · simp [opens, valid, run_grant, free]
  · simp [opens, valid]

theorem run_startServer {descriptors : Descriptors} {socket bind efd : Int}
    (free : descriptors.Free socket) (bound : ¬ bind < 0)
    (fresh : (descriptors.grant socket).Free efd) :
    (startServer socket bind efd).run (boot descriptors) =
      .ok true (listening ((descriptors.grant socket).grant efd) socket) := by
  have boots : ((boot ((descriptors.grant socket).grant efd) : State BUFF_LEN).setEvent
      MAX_EVENTS socket .handleAccept MAX_EVENTS).eventAdd Epoll.EPOLLIN MAX_EVENTS =
        listening ((descriptors.grant socket).grant efd) socket :=
    State.eventAdd_setEvent socket .handleAccept Epoll.EPOLLIN
  rw [← boots]
  simp [startServer, initListenSocket, initEpoll, run_opens, free, bound, boot, fresh,
    free.1, fresh.1, Int.not_lt.mpr free.1, Int.not_lt.mpr fresh.1]

/-- A server that gets to its loop has opened the listening socket and the epoll
instance, in this order. -/
theorem listening_of_started {descriptors : Descriptors} {socket bind efd : Int}
    (started : (startServer socket bind efd).run (boot descriptors) = .ok true state) :
    descriptors.Free socket ∧ (descriptors.grant socket).Free efd ∧
      state = listening ((descriptors.grant socket).grant efd) socket := by
  by_cases valid : 0 ≤ socket
  · by_cases free : descriptors.Free socket
    · by_cases bound : bind < 0
      · simp [startServer, initListenSocket, run_opens, valid, free, bound, boot] at started
      · by_cases created : 0 ≤ efd
        · by_cases fresh : (descriptors.grant socket).Free efd
          · rw [run_startServer free bound fresh] at started
            cases started
            exact ⟨free, fresh, rfl⟩
          · simp [startServer, initListenSocket, initEpoll, run_opens, valid, free, bound,
              boot, created, fresh, Int.not_lt.mpr valid] at started
        · simp [startServer, initListenSocket, initEpoll, run_opens, valid, free, bound,
            boot, created, Int.not_lt.mpr valid, Int.not_le.mp created] at started
    · simp [startServer, initListenSocket, run_opens, valid, free, boot] at started
  · by_cases bound : bind < 0
    · simp [startServer, initListenSocket, run_opens, valid, bound] at started
    · simp [startServer, initListenSocket, run_opens, valid, bound,
        Int.not_le.mp valid] at started

end

end SimpleEpoll

end TestReactor
