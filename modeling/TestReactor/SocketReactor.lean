import TestReactor.Observer
import TestReactor.PollSet

namespace TestReactor

/-! `SocketReactor`, with the notifiers and observers that it has made: the calls
that register and unregister observers. -/

namespace SocketReactor

structure Cell where
  observer : Observer
  mutex : Mutex
  deriving DecidableEq, Repr

/-- A `SocketNotifier` with its notification centre.  `events` is the multiset of
notification pointers, `observers` the centre's list of pointers to cells. -/
structure Notifier where
  socket : Int
  events : List (Option SocketNotification)
  observers : List Nat
  mutex : Mutex
  centreMutex : Mutex
  deriving DecidableEq, Repr

end SocketReactor

/-- Cells and notifiers are referred to by number; those from `cellCount` and
`notifierCount` on have not been made.  `owns` tells which of the notification
pointers point to an object. -/
structure SocketReactor where
  recursive : Bool
  mutex : Mutex
  owns : SocketNotification → Bool
  handlers : Std.TreeMap Int Nat
  pollSet : PollSet
  notifiers : Nat → SocketReactor.Notifier
  notifierCount : Nat
  cells : Nat → SocketReactor.Cell
  cellCount : Nat

namespace SocketReactor

abbrev Method (α : Type) := Exec SocketReactor α

def Notifier.new (socket : Int) (recursive : Bool) : Notifier where
  socket := socket
  events := []
  observers := []
  mutex := .free recursive
  centreMutex := .free recursive

def Cell.new (observer : Observer) (recursive : Bool) : Cell where
  observer := observer
  mutex := .free recursive

def empty (recursive : Bool) (owns : SocketNotification → Bool)
    (refusal : Nat → CtlOp → Bool → Option Nat) : SocketReactor where
  recursive := recursive
  mutex := .free recursive
  owns := owns
  handlers := ∅
  pollSet := .empty recursive refusal
  notifiers := fun _ => .new ServerSocket.INVALID_SOCKET recursive
  notifierCount := 0
  cells := fun _ => .new ⟨.observer, 0, .notification, none, 0⟩ recursive
  cellCount := 0

/-- The constructor: it leaves all six notification pointers null. -/
def construct (recursive : Bool) (refusal : Nat → CtlOp → Bool → Option Nat) : SocketReactor :=
  empty recursive (fun _ => false) refusal

/-- The pointer `_pReadableNotification.get()`, and those to the other five. -/
def pointer (reactor : SocketReactor) (notification : SocketNotification) :
    Option SocketNotification :=
  if reactor.owns notification then some notification else none

def putNotifier (reactor : SocketReactor) (n : Nat) (notifier : Notifier) : SocketReactor :=
  { reactor with
    notifiers := fun other => if other = n then notifier else reactor.notifiers other }

def putCell (reactor : SocketReactor) (id : Nat) (cell : Cell) : SocketReactor :=
  { reactor with cells := fun other => if other = id then cell else reactor.cells other }

@[simp] theorem notifiers_putNotifier_self (reactor : SocketReactor) (n : Nat)
    (notifier : Notifier) : (reactor.putNotifier n notifier).notifiers n = notifier :=
  if_pos rfl

theorem putNotifier_putNotifier (reactor : SocketReactor) (n : Nat)
    (first second : Notifier) :
    (reactor.putNotifier n second).putNotifier n first = reactor.putNotifier n first := by
  simp only [putNotifier, SocketReactor.mk.injEq, true_and, and_true]
  funext other
  by_cases same : other = n <;> simp [same]

theorem putNotifier_self (reactor : SocketReactor) (n : Nat) :
    reactor.putNotifier n (reactor.notifiers n) = reactor := by
  cases reactor
  simp only [putNotifier, SocketReactor.mk.injEq, true_and, and_true]
  funext other
  by_cases same : other = n <;> simp [same]

@[simp] theorem cells_putNotifier (reactor : SocketReactor) (n : Nat) (notifier : Notifier) :
    (reactor.putNotifier n notifier).cells = reactor.cells := rfl

@[simp] theorem cells_putCell_self (reactor : SocketReactor) (id : Nat) (cell : Cell) :
    (reactor.putCell id cell).cells id = cell := if_pos rfl

theorem putCell_putCell (reactor : SocketReactor) (id : Nat) (first second : Cell) :
    (reactor.putCell id second).putCell id first = reactor.putCell id first := by
  simp only [putCell, SocketReactor.mk.injEq, true_and, and_true]
  funext other
  by_cases same : other = id <;> simp [same]

theorem putCell_self (reactor : SocketReactor) (id : Nat) :
    reactor.putCell id (reactor.cells id) = reactor := by
  cases reactor
  simp only [putCell, SocketReactor.mk.injEq, true_and, and_true]
  funext other
  by_cases same : other = id <;> simp [same]

/-! The mutexes, as fields of the reactor's memory. -/

def mutexField : Field SocketReactor Mutex where
  get := mutex
  set mutex reactor := { reactor with mutex := mutex }
  get_set _ _ := rfl
  set_get _ := rfl
  set_set _ _ _ := rfl

def pollSetField : Field SocketReactor PollSet where
  get := pollSet
  set pollSet reactor := { reactor with pollSet := pollSet }
  get_set _ _ := rfl
  set_get _ := rfl
  set_set _ _ _ := rfl

def notifierMutex (n : Nat) : Field SocketReactor Mutex where
  get reactor := (reactor.notifiers n).mutex
  set mutex reactor := reactor.putNotifier n { reactor.notifiers n with mutex := mutex }
  get_set _ _ := by simp
  set_get reactor := reactor.putNotifier_self n
  set_set _ _ _ := by simp [putNotifier_putNotifier]

def centreMutex (n : Nat) : Field SocketReactor Mutex where
  get reactor := (reactor.notifiers n).centreMutex
  set mutex reactor :=
    reactor.putNotifier n { reactor.notifiers n with centreMutex := mutex }
  get_set _ _ := by simp
  set_get reactor := reactor.putNotifier_self n
  set_set _ _ _ := by simp [putNotifier_putNotifier]

def observerMutex (id : Nat) : Field SocketReactor Mutex where
  get reactor := (reactor.cells id).mutex
  set mutex reactor := reactor.putCell id { reactor.cells id with mutex := mutex }
  get_set _ _ := by simp
  set_get reactor := reactor.putCell_self id
  set_set _ _ _ := by simp [putCell_putCell]

/-! `NotificationCenter`, as a part of the notifier `n`. -/

namespace NotificationCenter

/-- `_observers.push_back(observer.clone())`. -/
def addObserver (n : Nat) (observer : Observer) : Method Unit :=
  scopedLock (centreMutex n) do
    let reactor ← get
    let notifier := reactor.notifiers n
    let clone := reactor.cellCount
    let reactor := { reactor.putCell clone (.new observer reactor.recursive) with
      cellCount := reactor.cellCount + 1 }
    set (reactor.putNotifier n
      { notifier with observers := notifier.observers ++ [clone] })

/-- `Observer::disable`. -/
def disable (id : Nat) : Method Unit :=
  scopedLock (observerMutex id) do
    modify fun reactor =>
      reactor.putCell id
        { reactor.cells id with observer := (reactor.cells id).observer.disabled }

def find (reactor : SocketReactor) (n : Nat) (observer : Observer) : Option Nat :=
  (reactor.notifiers n).observers.find? fun id => observer.equals (reactor.cells id).observer

def removeObserver (n : Nat) (observer : Observer) : Method Unit :=
  scopedLock (centreMutex n) do
    match find (← get) n observer with
    | some id =>
        disable id
        modify fun reactor =>
          let notifier := reactor.notifiers n
          reactor.putNotifier n { notifier with observers := notifier.observers.erase id }
    | none => pure ()

def hasObserver (n : Nat) (observer : Observer) : Method Bool :=
  scopedLock (centreMutex n) do return (find (← get) n observer).isSome

def countObservers (n : Nat) : Method Nat :=
  scopedLock (centreMutex n) do return ((← get).notifiers n).observers.length

/-- The copy of the list that `postNotification` walks. -/
def observersToNotify (n : Nat) : Method (List Nat) :=
  scopedLock (centreMutex n) do return ((← get).notifiers n).observers

end NotificationCenter

namespace SocketNotifier

/-- The notification pointer that an observer is counted under: the first one of
these four that it accepts. -/
def eventOf (reactor : SocketReactor) (observer : Observer) :
    Option (Option SocketNotification) :=
  ([.readable, .writable, .error, .timeout].map reactor.pointer).find? observer.accepts

def addObserver (n : Nat) (observer : Observer) : Method Unit := do
  NotificationCenter.addObserver n observer
  scopedLock (notifierMutex n) do
    match eventOf (← get) observer with
    | some event =>
        modify fun reactor =>
          let notifier := reactor.notifiers n
          reactor.putNotifier n { notifier with events := event :: notifier.events }
    | none => pure ()

def removeObserver (n : Nat) (observer : Observer) : Method Unit := do
  NotificationCenter.removeObserver n observer
  scopedLock (notifierMutex n) do
    match eventOf (← get) observer with
    | some event =>
        modify fun reactor =>
          let notifier := reactor.notifiers n
          reactor.putNotifier n { notifier with events := notifier.events.erase event }
    | none => pure ()

def accepts (n : Nat) (notification : Option SocketNotification) : Method Bool :=
  scopedLock (notifierMutex n) do
    return ((← get).notifiers n).events.contains notification

end SocketNotifier

/-- `getNotifier`: the number of the notifier, or null.  Sockets are compared by
their descriptors. -/
def getNotifier (sockfd : Int) (makeNew : Bool) : Method (Option Nat) :=
  scopedLock mutexField do
    let reactor ← get
    match reactor.handlers[sockfd]? with
    | some n => return some n
    | none =>
        if makeNew then
          let n := reactor.notifierCount
          let reactor := reactor.putNotifier n (.new sockfd reactor.recursive)
          set { reactor with
            notifierCount := reactor.notifierCount + 1
            handlers := reactor.handlers.insert sockfd n }
          return some n
        else return none

/-- The mode that the reactor asks for: `accepts` for three of the notifications. -/
def mode (n : Nat) : Method PollSet.Mode := do
  let reactor ← get
  let readable ← SocketNotifier.accepts n (reactor.pointer .readable)
  let writable ← SocketNotifier.accepts n (reactor.pointer .writable)
  let error ← SocketNotifier.accepts n (reactor.pointer .error)
  return (if readable then PollSet.POLL_READ else 0) |||
    (if writable then PollSet.POLL_WRITE else 0) |||
    (if error then PollSet.POLL_ERROR else 0)

def addEventHandler (socket : SocketRef) (observer : Observer) : Method Unit := do
  match ← getNotifier socket.sockfd true with
  | none => Exec.raise .fault
  | some n =>
      let has ← NotificationCenter.hasObserver n observer
      Exec.when (!has) (SocketNotifier.addObserver n observer)
      let mode ← mode n
      Exec.when (mode ≠ 0) (Exec.on pollSetField (PollSet.add socket mode))

def hasEventHandler (socket : SocketRef) (observer : Observer) : Method Bool := do
  match ← getNotifier socket.sockfd false with
  | none => return false
  | some n => NotificationCenter.hasObserver n observer

/-- `_handlers.erase(socket)`.  The key that goes is a copy of the socket, whose destructor
closes the descriptor. -/
def erased (reactor : SocketReactor) (sockfd : Int) : SocketReactor :=
  { reactor with
    handlers := reactor.handlers.erase sockfd
    pollSet :=
      if sockfd ∈ reactor.handlers then reactor.pollSet.closing sockfd else reactor.pollSet }

/-- A copy of a socket has been destroyed somewhere else, which has closed the descriptor. -/
def closing (reactor : SocketReactor) (sockfd : Int) : SocketReactor :=
  { reactor with pollSet := reactor.pollSet.closing sockfd }

/-- A new connection has been given the number of the descriptor. -/
def opened (reactor : SocketReactor) (sockfd : Int) : SocketReactor :=
  { reactor with
    pollSet := { reactor.pollSet with epoll := reactor.pollSet.epoll.opened sockfd } }

/-- The last observer of a socket goes: so do its handler and its entry in the poll
set. -/
def forget (socket : SocketRef) : Method Unit := do
  scopedLock mutexField (modify fun reactor => reactor.erased socket.sockfd)
  Exec.on pollSetField (PollSet.remove socket)

def removeEventHandler (socket : SocketRef) (observer : Observer) : Method Unit := do
  match ← getNotifier socket.sockfd false with
  | none => pure ()
  | some n =>
      let has ← NotificationCenter.hasObserver n observer
      Exec.when has do
        let count ← NotificationCenter.countObservers n
        Exec.when (count = 1) (forget socket)
        SocketNotifier.removeObserver n observer
        let count ← NotificationCenter.countObservers n
        Exec.when (count > 0 && socket.sockfd > 0) do
          let mode ← mode n
          Exec.on pollSetField (PollSet.update socket mode)

inductive Call where
  | add (socket : SocketRef) (observer : Observer)
  | remove (socket : SocketRef) (observer : Observer)
  deriving DecidableEq, Repr

def Call.sockfd : Call → Int
  | .add socket _ => socket.sockfd
  | .remove socket _ => socket.sockfd

def Call.run : Call → Method Unit
  | .add socket observer => addEventHandler socket observer
  | .remove socket observer => removeEventHandler socket observer

end SocketReactor

end TestReactor
