import Mathlib.Logic.Function.Basic
import TestReactor.SocketReactor.Dispatch

namespace TestReactor

namespace SocketReactor

open Function (update)

/-! The notifications as objects.  The reactor owns them by its `shared_ptr` members, and the
`unique_ptr` that `SocketNotifier::dispatch` makes owns one while it is delivered. -/

inductive Lifetime where
  | absent
  | live
  | destroyed
  deriving DecidableEq, Repr

/-- Whether a program still runs: it may have been stopped, or have destroyed its reactor. -/
inductive Phase where
  | working
  | stopped
  | gone
  deriving DecidableEq, Repr

/-- A session with the notifications of its reactor.  `uses` are the pointers that
`SocketNotifier::dispatch` has followed, with what they pointed to, and `destructions` tells
how often each notification has been destroyed. -/
structure Custody where
  session : Session
  lifetime : SocketNotification → Lifetime
  destructions : SocketNotification → Nat
  uses : List (Option SocketNotification × Lifetime)
  phase : Phase

namespace Custody

abbrev Method (α : Type) := Exec Custody α

def start (reactor : SocketReactor) (behaviour : Nat → Behaviour) : Custody where
  session := .start reactor behaviour
  lifetime notification := if reactor.owns notification then .live else .absent
  destructions := fun _ => 0
  uses := []
  phase := .working

def sessionField : Field Custody Session where
  get := session
  set session custody := { custody with session := session }
  get_set _ _ := rfl
  set_get _ := rfl
  set_set _ _ _ := rfl

def onSession (body : Session.Method α) : Method α := Exec.on sessionField body

def reactorField : Field Custody SocketReactor := sessionField.part Session.reactorField

def lifetimeAt (custody : Custody) : Option SocketNotification → Lifetime
  | some notification => custody.lifetime notification
  | none => .absent

/-- `pNotification->setSocket(…)`. -/
def setSocket (pointer : Option SocketNotification) : Method Unit := do
  modify fun custody =>
    { custody with uses := custody.uses ++ [(pointer, custody.lifetimeAt pointer)] }
  match pointer with
  | some _ => pure ()
  | none => Exec.raise .fault

/-- The end of the temporary `Notification::Ptr`, and with it of what it owns. -/
def destroy (notification : SocketNotification) : Method Unit :=
  modify fun custody => { custody with
    lifetime := update custody.lifetime notification .destroyed
    destructions :=
      update custody.destructions notification (custody.destructions notification + 1) }

/-- `SocketNotifier::dispatch`. -/
def dispatch (n : Nat) (pointer : Option SocketNotification) : Method Unit := do
  setSocket pointer
  match pointer with
  | none => pure ()
  | some notification =>
      let socket := ((← get).session.reactor.notifiers n).socket
      Exec.catching
        (do
          onSession (Session.postNotification n socket notification)
          destroy notification)
        fun what => do
          destroy notification
          setSocket pointer
          Exec.raise (.throw what)
      setSocket pointer

def dispatcher : Dispatcher Custody where
  reactor := reactorField
  dispatch := dispatch
  note _ := pure ()

def turn (answers : List (Except Nat (List (Epoll.Event Nat)))) : Method Unit :=
  dispatcher.turn answers

def onShutdown : Method Unit := dispatcher.onShutdown

/-- The destructor of the reactor: its members destroy what they point to. -/
def release : Method Unit :=
  modify fun custody => { custody with
    lifetime := fun notification =>
      if custody.session.reactor.owns notification then .destroyed
      else custody.lifetime notification
    destructions := fun notification =>
      if custody.session.reactor.owns notification then custody.destructions notification + 1
      else custody.destructions notification
    phase := .gone }

inductive Action where
  | call (call : Call)
  | turn (answers : List (Except Nat (List (Epoll.Event Nat))))
  | shutdown
  | release

def Action.run : Action → Method Unit
  | .call request => onSession (Session.perform none request)
  | .turn answers => Custody.turn answers
  | .shutdown => onShutdown
  | .release => Custody.release

def step (custody : Custody) (action : Action) : Option Custody :=
  if custody.phase = .working then
    match action.run.run custody with
    | .ok _ next => some next
    | .error (.throw _) next => some next
    | .error _ next => some { next with phase := .stopped }
  else none

/-- After a delivery: the notification has been used, destroyed, and used once more. -/
def delivered (custody : Custody) (notification : SocketNotification) (session : Session) :
    Custody :=
  { custody with
    session := session
    lifetime := update custody.lifetime notification .destroyed
    destructions :=
      update custody.destructions notification (custody.destructions notification + 1)
    uses := custody.uses ++
      [(some notification, custody.lifetime notification), (some notification, .destroyed)] }

/-! The sessions are those of the reactor without lifetimes. -/

section Session

open Exec

theorem run_dispatch (custody : Custody) (n : Nat) (notification : SocketNotification) :
    (dispatch n (some notification)).run custody =
      match (Session.postNotification n (custody.session.reactor.notifiers n).socket
        notification).run custody.session with
      | .ok _ session => .ok () (custody.delivered notification session)
      | .error (.throw what) session =>
          .error (.throw what) (custody.delivered notification session)
      | .error stop session =>
          .error stop { custody with
            session := session
            uses := custody.uses ++ [(some notification, custody.lifetime notification)] } := by
  cases ran : (Session.postNotification n (custody.session.reactor.notifiers n).socket
      notification).run custody.session with
  | ok value session =>
      simp [dispatch, setSocket, onSession, Exec.run_catching, Exec.run_on, destroy, sessionField,
        lifetimeAt, delivered, ran]
  | error stop session =>
      cases stop with
      | throw what =>
          simp [dispatch, setSocket, onSession, Exec.run_catching, Exec.run_on, destroy,
            sessionField, lifetimeAt, delivered, ran]
      | blocked | deadlock | fault | abort =>
          simp [dispatch, setSocket, onSession, Exec.run_catching, Exec.run_on, destroy,
            sessionField, lifetimeAt, ran]

theorem tracks_dispatch (n : Nat) (pointer : Option SocketNotification) :
    Tracks session (dispatch n pointer) (Session.dispatch n pointer) := by
  cases pointer with
  | none => exact fun _ => rfl
  | some notification =>
      intro custody
      rw [run_dispatch]
      show _ = (Session.postNotification n (custody.session.reactor.notifiers n).socket
        notification).run custody.session
      cases (Session.postNotification n (custody.session.reactor.notifiers n).socket
          notification).run custody.session with
      | ok value session => rfl
      | error stop session => cases stop <;> rfl

theorem covers_session : Dispatcher.Covers session dispatcher Session.dispatcher where
  reads _ := rfl
  writes _ _ := rfl
  dispatch := tracks_dispatch
  note _ := tracks_pure ()

end Session

end Custody

end SocketReactor

end TestReactor
