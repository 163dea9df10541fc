import Mathlib.Logic.Function.Basic
import TestReactor.SocketReactor.Outcome
import TestReactor.SocketReactor.Registrations

namespace TestReactor

namespace SocketReactor

open Function (update)

/-! What registrations are about: for each descriptor its handler, its observers, their
notifications and the interest in it, and for each address its socket. -/

@[ext] structure View where
  handlers : Int → Option Nat
  observers : Registry Int Observer
  events : Int → List (Option SocketNotification)
  interest : Int → Option (Epoll.Event Nat)
  sockets : Nat → Option Int

variable {reactor : SocketReactor}

def counted (reactor : SocketReactor) (fd : Int) : List (Option SocketNotification) :=
  match reactor.handlers[fd]? with
  | some n => (reactor.notifiers n).events
  | none => []

def view (reactor : SocketReactor) : View where
  handlers fd := reactor.handlers[fd]?
  observers := reactor.registered
  events := reactor.counted
  interest := reactor.pollSet.epoll.interest
  sockets address := reactor.pollSet.socketMap[address]?

def asked (reactor : SocketReactor) (events : List (Option SocketNotification)) :
    PollSet.Mode :=
  let accepted := fun notification mode =>
    if events.contains (reactor.pointer notification) then mode else 0
  accepted .readable PollSet.POLL_READ ||| accepted .writable PollSet.POLL_WRITE |||
    accepted .error PollSet.POLL_ERROR

def including (reactor : SocketReactor) (observer : Observer)
    (events : List (Option SocketNotification)) : List (Option SocketNotification) :=
  match SocketNotifier.eventOf reactor observer with
  | some event => event :: events
  | none => events

def excluding (reactor : SocketReactor) (observer : Observer)
    (events : List (Option SocketNotification)) : List (Option SocketNotification) :=
  match SocketNotifier.eventOf reactor observer with
  | some event => events.erase event
  | none => events

section

variable {n id : Nat} {observer : Observer} {fd : Int}

theorem counted_found (found : reactor.handlers[fd]? = some n) :
    reactor.counted fd = (reactor.notifiers n).events := by
  simp only [counted, found]

theorem interest_eq_asked {next : SocketReactor} (owns : next.owns = reactor.owns) (n : Nat) :
    next.interest n = reactor.asked (next.notifiers n).events := by
  have pointer : next.pointer = reactor.pointer := by
    funext notification
    rw [SocketReactor.pointer, owns, SocketReactor.pointer]
  rw [interest, pointer, asked]

/-! The single steps. -/

theorem owns_arrived (reactor : SocketReactor) (fd : Int) :
    (reactor.arrived fd).2.owns = reactor.owns := by
  unfold arrived
  split <;> rfl

theorem owns_enrolled (reactor : SocketReactor) (n : Nat) (observer : Observer) :
    (reactor.enrolled n observer).owns = reactor.owns := by
  unfold enrolled enlisted
  split
  · rfl
  · split <;> rfl

theorem owns_delisted (reactor : SocketReactor) (n : Nat) (observer : Observer) (id : Nat) :
    (reactor.delisted n observer id).owns = reactor.owns := by
  unfold delisted
  split <;> rfl

theorem handlers_arrived (reactor : SocketReactor) (fd : Int) :
    (fun other => (reactor.arrived fd).2.handlers[other]?) =
      update (fun other => reactor.handlers[other]?) fd
        (some ((reactor.handlers[fd]?).getD reactor.notifierCount)) := by
  funext other
  unfold arrived
  cases found : reactor.handlers[fd]? with
  | some n =>
      by_cases same : other = fd
      · simp [same, found]
      · simp [same]
  | none =>
      simp only [created, getElem?_insert, Option.getD_none]
      by_cases same : other = fd
      · simp [same]
      · simp [same, Ne.symm same]

theorem counted_arrived (sound : reactor.Sound) (fd : Int) :
    (reactor.arrived fd).2.counted = reactor.counted := by
  unfold arrived
  split
  case h_1 => rfl
  case h_2 absent =>
    funext other
    unfold counted
    simp only [created, getElem?_insert]
    by_cases same : fd = other
    · subst same
      simp [absent, putNotifier, Notifier.new]
    · rw [if_neg same]
      split
      case h_1 n found =>
        have made := (sound.keyed other n found).1
        have old : n ≠ reactor.notifierCount := by omega
        simp [putNotifier, old]
      case h_2 => rfl

theorem events_enlisted (reactor : SocketReactor) (n m : Nat) (observer : Observer) :
    ((reactor.enlisted n observer).notifiers m).events =
      if m = n then reactor.including observer (reactor.notifiers m).events
      else (reactor.notifiers m).events := by
  unfold enlisted including
  cases SocketNotifier.eventOf reactor observer <;> by_cases same : m = n <;>
    simp [cloned, withEvents, putNotifier, putCell, same]

theorem events_delisted (reactor : SocketReactor) (n m : Nat) (observer : Observer) (id : Nat) :
    ((reactor.delisted n observer id).notifiers m).events =
      if m = n then reactor.excluding observer (reactor.notifiers m).events
      else (reactor.notifiers m).events := by
  unfold delisted excluding
  cases SocketNotifier.eventOf reactor observer <;> by_cases same : m = n <;>
    simp [unlisted, silenced, withEvents, putNotifier, putCell, same]

theorem counted_eq_update {next : SocketReactor} (sound : reactor.Sound)
    (found : reactor.handlers[fd]? = some n) (handlers : next.handlers = reactor.handlers)
    {change : List (Option SocketNotification) → List (Option SocketNotification)}
    (events : ∀ m, (next.notifiers m).events =
      if m = n then change (reactor.notifiers m).events else (reactor.notifiers m).events) :
    next.counted = update reactor.counted fd (change (reactor.counted fd)) := by
  funext other
  by_cases same : other = fd
  · subst same
    have kept : next.handlers[other]? = some n := by rw [handlers, found]
    rw [Function.update_self, counted_found kept, counted_found found, events, if_pos rfl]
  · rw [Function.update_of_ne same]
    unfold counted
    rw [handlers]
    split
    case h_1 m found' =>
      have apart : m ≠ n := by
        rintro rfl
        exact same (sound.injective found found')
      rw [events, if_neg apart]
    case h_2 => rfl

theorem counted_enrolled (sound : reactor.Sound) (found : reactor.handlers[fd]? = some n)
    (observer : Observer) :
    (reactor.enrolled n observer).counted = update reactor.counted fd
      (if observer ∈ reactor.registered fd then reactor.counted fd
        else reactor.including observer (reactor.counted fd)) := by
  rw [enrolled_eq, registered_found found]
  by_cases listed : observer ∈ reactor.observersOf n
  · rw [if_pos listed, if_pos listed, Function.update_eq_self]
  · rw [if_neg listed, if_neg listed]
    exact counted_eq_update sound found (handlers_enlisted reactor n observer)
      (fun m => events_enlisted reactor n m observer)

theorem counted_delisted (sound : reactor.Sound) (found : reactor.handlers[fd]? = some n)
    (observer : Observer) (id : Nat) :
    (reactor.delisted n observer id).counted = update reactor.counted fd
      (reactor.excluding observer (reactor.counted fd)) :=
  counted_eq_update sound found (handlers_delisted reactor n observer id)
    (fun m => events_delisted reactor n m observer id)

theorem handlers_forgotten (reactor : SocketReactor) (socket : SocketRef) (pollSet : PollSet) :
    (fun other => (reactor.forgotten socket pollSet).handlers[other]?) =
      update (fun other => reactor.handlers[other]?) socket.sockfd none := by
  funext other
  simp only [forgotten, getElem?_erase]
  by_cases same : other = socket.sockfd
  · simp [same]
  · simp [same, Ne.symm same]

end

end SocketReactor

end TestReactor
