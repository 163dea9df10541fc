import Mathlib.Data.List.Sort
import TestReactor.Epoll
import TestReactor.ServerSocket

namespace TestReactor

/-! `PollSet`: an epoll instance, and a map from the addresses that it was given to
copies of the sockets that stood there, of which only the descriptor matters.  The
destructor of a copy closes its descriptor; `INVALID_SOCKET`, which it leaves alone, is
the number of none, and as good as closed. -/

/-- A `ServerSocket` object that is passed by reference: where it stands, and its
descriptor. -/
structure SocketRef where
  address : Nat
  sockfd : Int
  deriving DecidableEq, Repr

structure PollSet where
  mutex : Mutex
  epoll : Epoll Nat
  socketMap : Std.TreeMap Nat Int

namespace PollSet

abbrev Method (α : Type) := Exec PollSet α

abbrev Mode := BitVec 32

def POLL_READ : Mode := 0x1#32
def POLL_WRITE : Mode := 0x2#32
def POLL_ERROR : Mode := 0x4#32

abbrev SocketModeMap := Std.TreeMap Int Mode

def empty (recursive : Bool) (refusal : Nat → CtlOp → Bool → Option Nat) : PollSet where
  mutex := .free recursive
  epoll := .empty refusal
  socketMap := ∅

def mutexField : Field PollSet Mutex where
  get := mutex
  set mutex pollSet := { pollSet with mutex := mutex }
  get_set _ _ := rfl
  set_get _ := rfl
  set_set _ _ _ := rfl

def locked (body : Method α) : Method α := scopedLock mutexField body

/-- The events that `add` and `update` ask epoll for. -/
def events (mode : Mode) : BitVec 32 :=
  (if mode &&& POLL_READ ≠ 0 then Epoll.EPOLLIN else 0) |||
  (if mode &&& POLL_WRITE ≠ 0 then Epoll.EPOLLOUT else 0) |||
  (if mode &&& POLL_ERROR ≠ 0 then Epoll.EPOLLERR else 0)

/-- `epoll_ctl`, with the errno when it fails. -/
def epollCtl (op : CtlOp) (fd : Int) (event : Epoll.Event Nat) : Method (Option Nat) := do
  let pollSet ← get
  set { pollSet with epoll := pollSet.epoll.ctl op fd event }
  return pollSet.epoll.refused op fd

/-- `update`: it takes no lock of its own. -/
def update (socket : SocketRef) (mode : Mode) : Method Unit := do
  let err ← epollCtl .mod socket.sockfd ⟨events mode, socket.address⟩
  match err with
  | some errno => ServerSocket.error errno
  | none => pure ()

/-- The part of `add` around `epoll_ctl`: a descriptor that is listed already is
updated. -/
def register (socket : SocketRef) (mode : Mode) : Method Unit := do
  let err ← epollCtl .add socket.sockfd ⟨events mode, socket.address⟩
  match err with
  | some errno =>
      if errno = Errno.EEXIST then update socket mode else ServerSocket.error errno
  | none => pure ()

def add (socket : SocketRef) (mode : Mode) : Method Unit :=
  locked do
    register socket mode
    modify fun pollSet =>
      if socket.address ∈ pollSet.socketMap then pollSet
      else { pollSet with
        socketMap := pollSet.socketMap.insert socket.address socket.sockfd }

/-- The poll set when a copy of a socket has been destroyed somewhere. -/
def closing (pollSet : PollSet) (sockfd : Int) : PollSet :=
  { pollSet with epoll := pollSet.epoll.close sockfd }

/-- `_socketMap.erase(socket)`, with the copy that goes. -/
def forgotten (pollSet : PollSet) (socket : SocketRef) : PollSet :=
  { pollSet with
    socketMap := pollSet.socketMap.erase socket.address
    epoll := (pollSet.socketMap[socket.address]?).elim pollSet.epoll pollSet.epoll.close }

def remove (socket : SocketRef) : Method Unit :=
  locked do
    let err ← epollCtl .del socket.sockfd ⟨0, 0⟩
    match err with
    | some errno => ServerSocket.error errno
    | none => pure ()
    modify fun pollSet => pollSet.forgotten socket

def has (socket : SocketRef) : Method Bool :=
  locked do return (← get).socketMap.contains socket.address

def isEmpty : Method Bool :=
  locked do return (← get).socketMap.isEmpty

/-- The copies of the map go, and another instance takes the place of the one that has been
closed. -/
def cleared (pollSet : PollSet) : PollSet :=
  { pollSet with
    socketMap := ∅
    epoll := (pollSet.epoll.closeAll (pollSet.socketMap.toList.map Prod.snd)).recreated }

/-- `clear`.  `failure` is the errno of `epoll_create`, if it fails; the instance that was
closed held nothing any more. -/
def clear (failure : Option Nat) : Method Unit :=
  locked do
    modify cleared
    match failure with
    | some errno => ServerSocket.error errno
    | none => pure ()

/-- The modes that one event of epoll is reported as. -/
def modes (events : BitVec 32) : List Mode :=
  (if events &&& Epoll.EPOLLIN ≠ 0 then [POLL_READ] else []) ++
  (if events &&& Epoll.EPOLLOUT ≠ 0 then [POLL_WRITE] else []) ++
  (if events &&& Epoll.EPOLLERR ≠ 0 then [POLL_ERROR] else [])

/-- `result[it->second] |= mode`, for each mode of the event. -/
def report (pollSet : PollSet) (result : SocketModeMap) (event : Epoll.Event Nat) :
    SocketModeMap :=
  match pollSet.socketMap[event.data]? with
  | some sockfd =>
      (modes event.events).foldl
        (fun result mode => result.insert sockfd ((result[sockfd]?).getD 0 ||| mode))
        result
  | none => result

def EVENTS : Nat := 1024

/-- `poll`.  `answers` are those of `epoll_wait`. -/
def poll (answers : List (Except Nat (List (Epoll.Event Nat)))) : Method SocketModeMap := do
  let idle ← locked do return (← get).socketMap.isEmpty
  if idle then return ∅
  else
    match Errno.retried answers with
    | none => Exec.raise .blocked
    | some (.error errno) => ServerSocket.error errno
    | some (.ok ready) => locked do return (ready.take EVENTS).foldl (← get).report ∅

/-- The end of a poll result.  Its keys are copies of the sockets, whose destructors close the
descriptors. -/
def discard (result : SocketModeMap) : Method Unit :=
  modify fun pollSet =>
    { pollSet with epoll := pollSet.epoll.closeAll (result.toList.map Prod.fst) }

end PollSet

end TestReactor
