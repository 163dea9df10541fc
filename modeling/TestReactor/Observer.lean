import TestReactor.Exec

namespace TestReactor

/-! The notifications of a reactor, and the observers that take them. -/

/-- The six notification objects that a reactor owns, each of a class of its own. -/
inductive SocketNotification where
  | readable
  | writable
  | error
  | timeout
  | idle
  | shutdown
  deriving DecidableEq, Repr

/-- The class `N` that an observer is made for: that of one notification, or one of
the two base classes. -/
inductive NotificationClass where
  | concrete (notification : SocketNotification)
  | socketNotification
  | notification
  deriving DecidableEq, Repr

/-- Whether `dynamic_cast<N*>` takes a notification. -/
def NotificationClass.casts (cls : NotificationClass) (notification : SocketNotification) :
    Bool :=
  match cls with
  | .concrete own => own == notification
  | .socketNotification => true
  | .notification => true

/-- `Observer<C, N>` and `NObserver<C, N>`. -/
inductive ObserverTemplate where
  | observer
  | nObserver
  deriving DecidableEq, Repr

/-- The values of an observer: its instance of the templates, the object that it
calls back (null once it is disabled) and the method that it calls there. -/
structure Observer where
  template : ObserverTemplate
  handlerClass : Nat
  notificationClass : NotificationClass
  object : Option Nat
  method : Nat
  deriving DecidableEq, Repr

namespace Observer

/-- `NObserver<EchoServiceHandler, N>(object, method)`, `N` being the class of
`notification`. -/
def onSocket (object : Nat) (notification : SocketNotification) (method : Nat) : Observer where
  template := .nObserver
  handlerClass := 0
  notificationClass := .concrete notification
  object := some object
  method := method

def equals (observer other : Observer) : Bool := observer == other

/-- `accepts(pNf)`: a null pointer is accepted by no observer. -/
def accepts (observer : Observer) : Option SocketNotification → Bool
  | some notification => observer.notificationClass.casts notification
  | none => false

def disabled (observer : Observer) : Observer := { observer with object := none }

end Observer

end TestReactor
