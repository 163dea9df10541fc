import TestReactor.SocketReactor
import TestReactor.Tracks

namespace TestReactor

namespace SocketReactor

/-! The dispatch of notifications, with the calls that the observers' callbacks make
on the reactor while it is under way. -/

/-- What a callback does: it makes calls on the reactor, whose exceptions it catches,
and then it returns or throws. -/
structure Behaviour where
  calls : List Call
  throws : Bool

/-- What happens in a session.  A call is recorded when it begins, with the observer
whose callback makes it, if one does, and the reactor that it finds, and again when it
returns. -/
inductive Event where
  | calling (call : Call) (within : Option Nat) (before : SocketReactor)
  | returned (call : Call)
  | invoked (socket : Int) (observer : Observer) (notification : SocketNotification)

/-- A reactor at work.  `behaviour n` is what the `n`-th callback does. -/
structure Session where
  reactor : SocketReactor
  log : List Event
  behaviour : Nat → Behaviour
  invocations : Nat

namespace Session

abbrev Method (α : Type) := Exec Session α

def start (reactor : SocketReactor) (behaviour : Nat → Behaviour) : Session where
  reactor := reactor
  log := []
  behaviour := behaviour
  invocations := 0

def reactorField : Field Session SocketReactor where
  get := reactor
  set reactor session := { session with reactor := reactor }
  get_set _ _ := rfl
  set_get _ := rfl
  set_set _ _ _ := rfl

def onReactor (body : SocketReactor.Method α) : Method α := Exec.on reactorField body

def observerMutex (id : Nat) : Field Session Mutex where
  get session := (SocketReactor.observerMutex id).get session.reactor
  set mutex session :=
    { session with reactor := (SocketReactor.observerMutex id).set mutex session.reactor }
  get_set _ _ := by simp
  set_get _ := by simp
  set_set _ _ _ := by simp

def record (event : Event) : Method Unit :=
  modify fun session => { session with log := session.log ++ [event] }

def perform (within : Option Nat) (call : Call) : Method Unit := do
  let session ← get
  record (.calling call within session.reactor)
  Exec.catching
    (do
      onReactor call.run
      record (.returned call))
    fun _ => pure ()

/-- `(_pObject->*_method)(pCastNf)`, by the observer in the cell `id`. -/
def callBack (id : Nat) (socket : Int) (observer : Observer)
    (notification : SocketNotification) : Method Unit := do
  record (.invoked socket observer notification)
  let session ← get
  let behaviour := session.behaviour session.invocations
  set { session with invocations := session.invocations + 1 }
  Exec.forEach behaviour.calls (perform (some id))
  Exec.when behaviour.throws (Exec.raise (.throw "callback"))

/-- `Observer::notify`.  `socket` is the one that the notification carries. -/
def notify (socket : Int) (notification : SocketNotification) (id : Nat) : Method Unit :=
  scopedLock (observerMutex id) do
    let observer := ((← get).reactor.cells id).observer
    Exec.when (observer.object.isSome && observer.accepts (some notification))
      (callBack id socket observer notification)

/-- `NotificationCenter::postNotification`: it walks a copy of the list. -/
def postNotification (n : Nat) (socket : Int) (notification : SocketNotification) :
    Method Unit := do
  let observers ← onReactor (NotificationCenter.observersToNotify n)
  Exec.forEach observers (notify socket notification)

/-- `SocketNotifier::dispatch`: it stores the socket in the notification first, which
a null pointer does not survive. -/
def dispatch (n : Nat) (pointer : Option SocketNotification) : Method Unit :=
  match pointer with
  | none => Exec.raise .fault
  | some notification => do
      let socket := ((← get).reactor.notifiers n).socket
      postNotification n socket notification

/-- The notifiers of all handlers, in the order of their descriptors. -/
def delegates : SocketReactor.Method (List Nat) :=
  scopedLock mutexField do return (← get).handlers.toList.map Prod.snd

/-- A notifier accepts one of the three notifications that come from epoll. -/
def acceptsAny (n : Nat) : SocketReactor.Method Bool := do
  let reactor ← get
  if ← SocketNotifier.accepts n (reactor.pointer .readable) then return true
  else if ← SocketNotifier.accepts n (reactor.pointer .writable) then return true
  else SocketNotifier.accepts n (reactor.pointer .error)

def someAccepts : List Nat → SocketReactor.Method Bool
  | [] => return false
  | n :: rest => do if ← acceptsAny n then return true else someAccepts rest

def hasSocketHandlers : SocketReactor.Method Bool := do
  if ← Exec.on pollSetField PollSet.isEmpty then return false
  else scopedLock mutexField do someAccepts ((← get).handlers.toList.map Prod.snd)

def isReady (mode bit : PollSet.Mode) : Bool := mode &&& bit ≠ 0

end Session

/-- A moment of the loop: a ready bit has its turn, or a broadcast begins. -/
inductive Moment where
  | due (sockfd : Int) (notification : SocketNotification)
  | broadcast (notification : SocketNotification)

/-- A program that dispatches the notifications of a reactor.  `dispatch` is
`SocketNotifier::dispatch`; what `note` keeps of a moment is no part of the source. -/
structure Dispatcher (σ : Type) where
  reactor : Field σ SocketReactor
  dispatch : Nat → Option SocketNotification → Exec σ Unit
  note : Moment → Exec σ Unit

namespace Dispatcher

variable (dispatcher : Dispatcher σ)

def onReactor (body : SocketReactor.Method α) : Exec σ α := Exec.on dispatcher.reactor body

theorem run_onReactor {dispatcher : Dispatcher σ} {body : SocketReactor.Method α} {value : α}
    {state : σ} (ran : body.run (dispatcher.reactor.get state) =
      .ok value (dispatcher.reactor.get state)) :
    (dispatcher.onReactor body).run state = .ok value state := by
  rw [onReactor, Exec.run_on_ok ran, dispatcher.reactor.set_get]

theorem run_onReactor_error {dispatcher : Dispatcher σ} {body : SocketReactor.Method α}
    {stop : Stop} {state : σ} (ran : body.run (dispatcher.reactor.get state) =
      .error stop (dispatcher.reactor.get state)) :
    (dispatcher.onReactor body).run state = .error stop state := by
  rw [onReactor, Exec.run_on_error ran, dispatcher.reactor.set_get]

/-- `SocketReactor::dispatch(NotifierPtr&, …)`. -/
def dispatchNotifier (pointer : Option SocketNotification) (n : Nat) : Exec σ Unit :=
  Exec.catching (dispatcher.dispatch n pointer) fun _ => pure ()

/-- `SocketReactor::dispatch(const ServerSocket&, …)`. -/
def dispatchSocket (sockfd : Int) (notification : SocketNotification) : Exec σ Unit := do
  dispatcher.note (.due sockfd notification)
  match ← dispatcher.onReactor (getNotifier sockfd false) with
  | none => pure ()
  | some n =>
      let reactor := dispatcher.reactor.get (← get)
      dispatcher.dispatchNotifier (reactor.pointer notification) n

/-- `SocketReactor::dispatch(SocketNotification*)`. -/
def dispatchAll (notification : SocketNotification) : Exec σ Unit := do
  dispatcher.note (.broadcast notification)
  let delegates ← dispatcher.onReactor Session.delegates
  let reactor := dispatcher.reactor.get (← get)
  Exec.forEach delegates (dispatcher.dispatchNotifier (reactor.pointer notification))

def onTimeout : Exec σ Unit := dispatcher.dispatchAll .timeout

def onIdle : Exec σ Unit := dispatcher.dispatchAll .idle

def onShutdown : Exec σ Unit := dispatcher.dispatchAll .shutdown

def serve (ready : Int × PollSet.Mode) : Exec σ Unit := do
  Exec.when (Session.isReady ready.2 PollSet.POLL_READ)
    (dispatcher.dispatchSocket ready.1 .readable)
  Exec.when (Session.isReady ready.2 PollSet.POLL_WRITE)
    (dispatcher.dispatchSocket ready.1 .writable)
  Exec.when (Session.isReady ready.2 PollSet.POLL_ERROR)
    (dispatcher.dispatchSocket ready.1 .error)

/-- One turn of the loop of `run`.  `answers` are those of `epoll_wait`. -/
def turn (answers : List (Except Nat (List (Epoll.Event Nat)))) : Exec σ Unit :=
  Exec.catching
    (do
      if ← dispatcher.onReactor Session.hasSocketHandlers then
        let sm ← dispatcher.onReactor (Exec.on pollSetField (PollSet.poll answers))
        Exec.forEach sm.toList dispatcher.serve
        let readable := sm.toList.any fun ready => Session.isReady ready.2 PollSet.POLL_READ
        Exec.when (!readable) dispatcher.onTimeout
        dispatcher.onReactor (Exec.on pollSetField (PollSet.discard sm))
      else dispatcher.onIdle)
    fun _ => pure ()

end Dispatcher

namespace Session

def dispatcher : Dispatcher Session where
  reactor := reactorField
  dispatch := dispatch
  note _ := pure ()

def turn (answers : List (Except Nat (List (Epoll.Event Nat)))) : Method Unit :=
  dispatcher.turn answers

def onShutdown : Method Unit := dispatcher.onShutdown

/-- What the program does with its reactor: calls outside any dispatch, turns of the
loop, and the broadcast at its end. -/
inductive Action where
  | call (call : Call)
  | turn (answers : List (Except Nat (List (Epoll.Event Nat))))
  | shutdown

def Action.run : Action → Method Unit
  | .call request => perform none request
  | .turn answers => Session.turn answers
  | .shutdown => onShutdown

def run (actions : List Action) : Method Unit := Exec.forEach actions Action.run

def after (actions : List Action) (session : Session) : Session :=
  match (run actions).run session with
  | .ok _ next | .error _ next => next

end Session

/-! Dispatchers whose states have more to them than others', and that do the same with what
they have in common. -/

namespace Dispatcher

open Exec

variable {σ τ : Type} {view : σ → τ} {outer : Dispatcher σ} {inner : Dispatcher τ}

/-- What `outer` does is, as far as `view` shows it, what `inner` does. -/
structure Covers (view : σ → τ) (outer : Dispatcher σ) (inner : Dispatcher τ) : Prop where
  reads : ∀ state, outer.reactor.get state = inner.reactor.get (view state)
  writes : ∀ reactor state,
    view (outer.reactor.set reactor state) = inner.reactor.set reactor (view state)
  dispatch : ∀ n pointer, Tracks view (outer.dispatch n pointer) (inner.dispatch n pointer)
  note : ∀ moment, Tracks view (outer.note moment) (inner.note moment)

namespace Covers

theorem onReactor (covers : Covers view outer inner) (body : SocketReactor.Method α) :
    Tracks view (outer.onReactor body) (inner.onReactor body) := by
  intro state
  rw [Dispatcher.onReactor, Dispatcher.onReactor, run_on, run_on, ← covers.reads state]
  cases body.run (outer.reactor.get state) with
  | ok value next => exact congrArg _ (covers.writes next state)
  | error stop next => exact congrArg _ (covers.writes next state)

theorem dispatchNotifier (covers : Covers view outer inner)
    (pointer : Option SocketNotification) (n : Nat) :
    Tracks view (outer.dispatchNotifier pointer n) (inner.dispatchNotifier pointer n) :=
  (covers.dispatch n pointer).catching fun _ => tracks_pure ()

theorem dispatchSocket (covers : Covers view outer inner) (sockfd : Int)
    (notification : SocketNotification) :
    Tracks view (outer.dispatchSocket sockfd notification)
      (inner.dispatchSocket sockfd notification) := by
  refine (covers.note _).bind fun _ => ?_
  refine (covers.onReactor (getNotifier sockfd false)).bind fun found => ?_
  cases found with
  | none => exact tracks_pure ()
  | some n =>
      refine tracks_get fun state => ?_
      rw [covers.reads state]
      exact covers.dispatchNotifier _ n

theorem dispatchAll (covers : Covers view outer inner) (notification : SocketNotification) :
    Tracks view (outer.dispatchAll notification) (inner.dispatchAll notification) := by
  refine (covers.note _).bind fun _ => ?_
  refine (covers.onReactor Session.delegates).bind fun delegates => ?_
  refine tracks_get fun state => ?_
  rw [covers.reads state]
  exact tracks_forEach (covers.dispatchNotifier _) delegates

theorem serve (covers : Covers view outer inner) (ready : Int × PollSet.Mode) :
    Tracks view (outer.serve ready) (inner.serve ready) :=
  ((covers.dispatchSocket ready.1 .readable).when _).bind fun _ =>
    ((covers.dispatchSocket ready.1 .writable).when _).bind fun _ =>
      (covers.dispatchSocket ready.1 .error).when _

theorem turn (covers : Covers view outer inner)
    (answers : List (Except Nat (List (Epoll.Event Nat)))) :
    Tracks view (outer.turn answers) (inner.turn answers) := by
  refine Tracks.catching ?_ fun _ => tracks_pure ()
  refine (covers.onReactor Session.hasSocketHandlers).bind fun some => ?_
  cases some with
  | false => exact covers.dispatchAll .idle
  | true =>
      refine (covers.onReactor _).bind fun sm => ?_
      refine (tracks_forEach covers.serve sm.toList).bind fun _ => ?_
      exact ((covers.dispatchAll .timeout).when _).bind fun _ => covers.onReactor _

end Covers

end Dispatcher

end SocketReactor

end TestReactor
