import TestReactor.EchoServiceHandler
import TestReactor.SocketReactor.Registrations

namespace TestReactor

namespace EchoServiceHandler

/-! A handler with the reactor that it makes its calls on. -/

def Interest.notification : Interest → SocketNotification
  | .readable => .readable
  | .writable => .writable
  | .shutdown => .shutdown

/-- The handler's method for a notification, among its callbacks. -/
def Interest.method : Interest → Nat
  | .readable => 0
  | .writable => 1
  | .shutdown => 2

/-- `NObserver<EchoServiceHandler, N>(*this, …)`, the handler standing at `object`. -/
def Interest.observer (object : Nat) (interest : Interest) : Observer :=
  .onSocket object interest.notification interest.method

def Callback.interest : Callback → Interest
  | .readable _ => .readable
  | .writable _ => .writable

/-- `object` is the address of the handler, `address` that of its `_socket`. -/
structure Attached where
  object : Nat
  address : Nat
  handler : State
  reactor : SocketReactor

namespace Attached

def socket (attached : Attached) : SocketRef :=
  ⟨attached.address, attached.handler.socket.sockfd⟩

def observer (attached : Attached) (interest : Interest) : Observer :=
  interest.observer attached.object

def call (attached : Attached) (request : Request) : SocketReactor.Call :=
  if request.adds then .add attached.socket (attached.observer request.interest)
  else .remove attached.socket (attached.observer request.interest)

def carryOut (attached : Attached) (requests : List Request) : SocketReactor.Method Unit :=
  Exec.forEach requests fun request => (attached.call request).run

/-- The handler as `next`, once what it asks of the reactor has returned.  These are the runs
without an exception of the reactor: one would show in the middle of the handler's callback,
which deletes the handler then. -/
def advance (attached : Attached) (next : State) (body : SocketReactor.Method Unit) :
    Option Attached :=
  match body.run attached.reactor with
  | .ok _ reactor => some { attached with handler := next, reactor := reactor }
  | .error _ _ => none

/-- The constructor, which makes its calls on a reactor at rest.  The connection has just been
accepted, so its descriptor is open. -/
def construct (object address : Nat) (socket : ServerSocket) (reactor : SocketReactor) :
    Option Attached :=
  let attached : Attached :=
    ⟨object, address, EchoServiceHandler.construct socket true, reactor.opened socket.sockfd⟩
  attached.advance attached.handler (attached.carryOut attached.handler.requests)

def cell (attached : Attached) (callback : Callback) : Option Nat :=
  (attached.reactor.listing attached.socket (attached.observer callback.interest)).map Prod.snd

/-- What happens to a handler at work: a callback comes, or somebody else makes a call
on its reactor. -/
inductive Event where
  | callback (callback : Callback)
  | elsewhere (call : SocketReactor.Call)

/-- Nobody else registers or unregisters an observer of this handler. -/
def foreign (attached : Attached) : SocketReactor.Call → Bool
  | .add _ observer => observer.object ≠ some attached.object
  | .remove _ observer => observer.object ≠ some attached.object

/-- The observer that is called back is locked while its callback makes its calls. -/
def step (attached : Attached) : Event → Option Attached
  | .callback callback => do
      let id ← attached.cell callback
      let next ← EchoServiceHandler.step attached.handler callback
      let requests := next.requests.drop attached.handler.requests.length
      attached.advance next
        (scopedLock (SocketReactor.observerMutex id) (attached.carryOut requests))
  | .elsewhere call =>
      if attached.foreign call then
        (call.run.returns attached.reactor).map fun result =>
          { attached with reactor := result.2 }
      else none

def Has (attached : Attached) (interest : Interest) : Prop :=
  attached.observer interest ∈ attached.reactor.registered attached.socket.sockfd

end Attached

end EchoServiceHandler

end TestReactor
