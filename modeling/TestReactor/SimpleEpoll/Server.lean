import TestReactor.SimpleEpoll

namespace TestReactor

/-! The server around the slots: how it starts, how it takes in connections, and how
the events of an epoll batch reach their callbacks. -/

namespace SimpleEpoll

def MAX_EVENTS : Nat := 1024

/-- What the kernel answers to the system calls that one callback may make. -/
structure Answers where
  accept : Except Nat Int
  flags : Int
  r : Int
  recv : Except Nat (List UInt8)
  send : Except Nat Nat

/-- `set_non_block`, with the results of its two `fcntl` calls. -/
def setNonBlock (flags r : Int) : Bool :=
  if flags < 0 then false
  else if r < 0 then false
  else true

section

variable {size : Nat}

/-- The kernel gives out a descriptor.  It never gives out one that is in use. -/
def grant (fd : Int) : Method size Unit := do
  if (← get).descriptors.Free fd then
    modify fun state => { state with descriptors := state.descriptors.grant fd }
  else Exec.raise .blocked

/-- A system call that returns a new descriptor, or a negative value. -/
def opens (fd : Int) : Method size Int := do
  Exec.when (0 ≤ fd) (grant fd)
  return fd

/-- The position of the first slot that is not in use. -/
def freeSlot (state : State size) : Option Nat :=
  (List.range MAX_EVENTS).find? fun i => (state.events i).status = 0

namespace Registrar

variable {σ : Type} (registrar : Registrar σ size)

def handleAccept (answers : Answers) : Exec σ Unit :=
  match answers.accept with
  | .error _ => pure ()
  | .ok cfd => do
      registrar.onTable (grant cfd)
      match freeSlot (← registrar.onTable get) with
      | none => pure ()
      | some i =>
          Exec.when (setNonBlock answers.flags answers.r) do
            registrar.onTable (modify fun state => state.setEvent i cfd .handleRecv i)
            registrar.eventAdd Epoll.EPOLLIN i

/-- `ev->call_back(ev->fd, events, ev->arg)`. -/
def invoke (answers : Answers) (event : Event size) : Exec σ Unit :=
  match event.callBack with
  | none => Exec.raise .fault
  | some .handleAccept => registrar.handleAccept answers
  | some .handleRecv => (fun _ => ()) <$> registrar.handleRecv answers.recv event.fd event.arg
  | some .handleSend => (fun _ => ()) <$> registrar.handleSend answers.send event.fd event.arg

end Registrar

def handleAccept (answers : Answers) : Method size Unit := registrar.handleAccept answers

def invoke (answers : Answers) (event : Event size) : Method size Unit :=
  registrar.invoke answers event

theorem invoke_handleAccept {answers : Answers} {event : Event size}
    (called : event.callBack = some .handleAccept) :
    invoke answers event = handleAccept answers := by
  rw [invoke, Registrar.invoke, called]
  rfl

theorem invoke_handleRecv {answers : Answers} {event : Event size}
    (called : event.callBack = some .handleRecv) :
    invoke answers event = (fun _ => ()) <$> handleRecv answers.recv event.fd event.arg := by
  rw [invoke, Registrar.invoke, called]
  rfl

theorem invoke_handleSend {answers : Answers} {event : Event size}
    (called : event.callBack = some .handleSend) :
    invoke answers event = (fun _ => ()) <$> handleSend answers.send event.fd event.arg := by
  rw [invoke, Registrar.invoke, called]
  rfl

/-! The start. -/

def boot (descriptors : Descriptors) : State size where
  events := fun _ => .zero size
  descriptors := descriptors
  epoll := .empty Epoll.strict
  closed := []

def initListenSocket (socket bind : Int) : Method size Int := do
  let listenFd ← opens socket
  if bind < 0 then return -1
  else return listenFd

def initEpoll (efd : Int) : Method size Bool := do
  let efd ← opens efd
  return ¬ efd < 0

/-- `start_server` up to `run`, with what `socket`, `bind` and `epoll_create` return:
whether it gets there. -/
def startServer (socket bind efd : Int) : Method size Bool := do
  let listenFd ← initListenSocket socket bind
  if listenFd < 0 then return false
  else if !(← initEpoll efd) then return false
  else
    modify fun state => state.setEvent MAX_EVENTS listenFd .handleAccept MAX_EVENTS
    modify fun state => state.eventAdd Epoll.EPOLLIN MAX_EVENTS
    return true

/-! The events of a batch. -/

/-- A `struct epoll_event` for the registered descriptor `fd`, and the answers to the
two callbacks that it may lead to. -/
structure Report where
  fd : Int
  events : BitVec 32
  data : Nat
  read : Answers
  write : Answers

structure Invocation (size : Nat) where
  ev : Nat
  fd : Int
  before : State size

/-- The server with the callbacks of the current batch, oldest first. -/
structure Server (size : Nat) where
  table : State size
  calls : List (Invocation size)
  crashed : Bool

def tableField : Field (Server size) (State size) where
  get := Server.table
  set table server := { server with table }
  get_set _ _ := rfl
  set_get _ := rfl
  set_set _ _ _ := rfl

def callBack (bit : BitVec 32) (report : Report) (answers : Answers) :
    Exec (Server size) Unit := do
  let event := (← get).table.events report.data
  Exec.when (report.events &&& bit ≠ 0 ∧ event.events &&& bit ≠ 0) do
    modify fun server =>
      { server with calls := server.calls ++ [⟨report.data, event.fd, server.table⟩] }
    Exec.on tableField (invoke answers event)

def dispatch (report : Report) : Exec (Server size) Unit := do
  callBack Epoll.EPOLLIN report report.read
  callBack Epoll.EPOLLOUT report report.write

/-- `dispatch_events`, from where `epoll_wait` has returned `reports`. -/
def dispatchEvents (reports : List Report) : Exec (Server size) Unit :=
  Exec.forEach reports dispatch

end

end SimpleEpoll

end TestReactor
