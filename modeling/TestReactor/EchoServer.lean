import TestReactor.ServerApplication
import TestReactor.SocketAcceptor
import TestReactor.SocketAcceptor.Reception
import TestReactor.SocketReactor.Loop
import TestReactor.SocketReactor.Unattended

namespace TestReactor

/-! The program: an acceptor on a reactor that a thread of its own runs. -/

namespace SocketReactor

variable {session : Session} {recursive : Bool}

structure Session.Trapped (recursive : Bool) (session : Session) : Prop where
  idle : session.reactor.Idle recursive none
  mute : session.reactor.Mute
  unpolled : session.reactor.Unpolled
  attended : session.reactor.handlers.isEmpty = false

namespace Session

/-- There is no notification to broadcast, so the first handler is the last. -/
theorem Trapped.run_dispatchAll (trapped : session.Trapped recursive)
    (notification : SocketNotification) :
    (dispatcher.dispatchAll notification).run session = .error .fault session := by
  have noted : (dispatcher.note (.broadcast notification)).run session = .ok () session := rfl
  have delegated : (dispatcher.onReactor delegates).run session =
      .ok (session.reactor.handlers.toList.map Prod.snd) session :=
    Dispatcher.run_onReactor (run_delegates trapped.idle.unlocked)
  have null : (dispatcher.reactor.get session).pointer notification = none := by
    change session.reactor.pointer notification = none
    simp [SocketReactor.pointer, trapped.mute.unowned]
  have attended := trapped.attended
  rw [← Std.TreeMap.isEmpty_toList] at attended
  simp only [Dispatcher.dispatchAll, EStateM.run_bind, noted, delegated, EStateM.run_get, null]
  cases handlers : session.reactor.handlers.toList with
  | nil =>
      rw [handlers] at attended
      contradiction
  | cons first rest => rfl

theorem Trapped.run_turn (trapped : session.Trapped recursive)
    (answers : List (Except Nat (List (Epoll.Event Nat)))) :
    (turn answers).run session = .error .fault session := by
  have asked : (dispatcher.onReactor hasSocketHandlers).run session = .ok false session :=
    Dispatcher.run_onReactor
      (run_hasSocketHandlers_unpolled trapped.idle.unlocked trapped.unpolled)
  simp only [turn, Dispatcher.turn, Exec.run_catching, EStateM.run_bind, asked,
    Bool.false_eq_true, if_false, Dispatcher.onIdle, trapped.run_dispatchAll .idle]

end Session

end SocketReactor

namespace EchoServer

open SocketReactor (Session Running Lap Behaviour)

def SERVER_PORT : Int := 8080

/-- `ServerSocket svs(port)`: a constructor with a number takes it for a descriptor. -/
def svs : ServerSocket := ServerSocket.ofDescriptor SERVER_PORT

/-- The acceptor, which stands at `object` and has its copy of `svs` at `address`. -/
def acceptor (object address : Nat) : SocketAcceptor where
  object := object
  socket := ⟨address, svs.sockfd⟩
  reactor := some 0

def start (recursive : Bool) (refusal : Nat → CtlOp → Bool → Option Nat)
    (behaviour : Nat → Behaviour) : Running Session where
  state := .start (.construct recursive refusal) behaviour
  stop := false

/-- `main`, as far as its reactor goes: what it returns, if it has returned by the end of `laps`.
`requested` tells whether the termination is requested before the reactor's thread looks at
`_stop` for the first time; in `laps` it is in the lap that stops. -/
def main (object address : Nat) (requested : Bool) (laps : List Lap) :
    Exec (Running Session) (Option Int) := do
  let acceptor := acceptor object address
  Exec.on Running.stateField (Session.onReactor
    (SocketReactor.addEventHandler acceptor.socket acceptor.observer))
  Exec.when requested SocketReactor.stop
  if ← Running.run Session.turn Session.onShutdown laps then
    Exec.catching
      (Exec.on Running.stateField (Session.onReactor
        (SocketReactor.removeEventHandler acceptor.socket acceptor.observer)))
      fun _ => pure ()
    return some ServerApplication.EXIT_OK
  else return none

end EchoServer

end TestReactor
