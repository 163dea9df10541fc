import Mathlib.Algebra.Group.Int.Defs
import TestReactor.Cells
import TestReactor.Descriptors
import TestReactor.Epoll
import TestReactor.Exec

namespace TestReactor

/-! The echo server of `simple_epoll`: a table of event slots, each with a buffer
that a chunk is received into and sent from.  What `recv` and `send` answer is a
parameter of the handlers. -/

namespace SimpleEpoll

def BUFF_LEN : Nat := 128

inductive CallBack where
  | handleAccept
  | handleRecv
  | handleSend
  deriving DecidableEq, Repr

/-- `struct event_s`, with a `buf` of `size` bytes and `len` directly behind it.
Pointers to events are indices of the table `g_events`. -/
structure Event (size : Nat) where
  fd : Int
  events : BitVec 32
  arg : Option Nat
  callBack : Option CallBack
  status : Int
  buf : List UInt8
  len : BitVec 32
  sized : buf.length = size
  deriving DecidableEq, Repr

namespace Event

variable {size : Nat}

def zero (size : Nat) : Event size where
  fd := 0
  events := 0
  arg := none
  callBack := none
  status := 0
  buf := List.replicate size 0
  len := 0
  sized := List.length_replicate

def received (event : Event size) (data : List UInt8) (fits : data.length ≤ size) :
    Event size :=
  { event with
    buf := Cells.overwrite event.buf 0 data
    sized := by
      rw [Cells.length_overwrite] <;> simp [event.sized, fits] }

/-- The `index`-th byte of a little-endian `int`, replaced. -/
def setByte (word : BitVec 32) (index : Nat) (byte : UInt8) : BitVec 32 :=
  word &&& ~~~(0xff#32 <<< (8 * index)) |||
    byte.toBitVec.setWidth 32 <<< (8 * index)

/-- `buf[index] = byte`.  Behind `buf` stand the four bytes of `len`; a store that
reaches beyond these is none of the fields'. -/
def store (event : Event size) (index : Nat) (byte : UInt8) : Option (Event size) :=
  if index < size then
    some { event with
      buf := event.buf.set index byte
      sized := by rw [List.length_set, event.sized] }
  else if index < size + 4 then
    some { event with len := setByte event.len (index - size) byte }
  else none

/-- `len` as the `size_t` that `send` takes. -/
def offered (event : Event size) : Nat := (event.len.toInt % 2 ^ 64).toNat

end Event

/-- `closed` records the calls of `::close`, oldest first. -/
structure State (size : Nat) where
  events : Nat → Event size
  descriptors : Descriptors
  epoll : Epoll Nat
  closed : List Int

abbrev Method (size : Nat) (α : Type) := Exec (State size) α

variable {size : Nat}

namespace State

def put (state : State size) (ev : Nat) (event : Event size) : State size :=
  { state with events := fun other => if other = ev then event else state.events other }

def setEvent (state : State size) (ev : Nat) (fd : Int) (callBack : CallBack) (arg : Nat) :
    State size :=
  state.put ev
    { state.events ev with
      fd := fd
      callBack := some callBack
      events := 0
      arg := some arg
      status := 0 }

/-- `set_epoll`.  Its callers always pass an event and ignore the result. -/
def setEpoll (state : State size) (fd : Int) (data : Nat) (events : BitVec 32)
    (op : CtlOp) : State size :=
  { state with epoll := state.epoll.ctl op fd ⟨events, data⟩ }

def eventAdd (state : State size) (events : BitVec 32) (ev : Nat) : State size :=
  let event := state.events ev
  let op := if event.status = 1 then CtlOp.mod else CtlOp.add
  let state := state.put ev { event with status := 1, events := events }
  state.setEpoll event.fd ev events op

def eventDel (state : State size) (ev : Nat) : State size :=
  let event := state.events ev
  if event.status ≠ 1 then state
  else
    let state := state.put ev { event with status := 0 }
    state.setEpoll event.fd ev 0 .del

/-- `::close`: the kernel also takes the descriptor out of the interest list. -/
def close (state : State size) (fd : Int) : State size :=
  { state with
    descriptors := state.descriptors.close fd
    epoll := state.epoll.set fd none
    closed := state.closed ++ [fd] }

end State

def deref : Option Nat → Method size Nat
  | some ev => pure ev
  | none => Exec.raise .fault

def storeBuf (ev : Nat) (index : Nat) (byte : UInt8) : Method size Unit := do
  match ((← get).events ev).store index byte with
  | some event => modify fun state => state.put ev event
  | none => Exec.raise .fault

/-- `send(fd, ev->buf, ev->len, 0)`: the kernel takes at most the `ev->len` bytes that
it is offered. -/
def send (event : Event size) (answer : Except Nat Nat) : Method size (Int × List UInt8) :=
  match answer with
  | .error _ => pure (-1, [])
  | .ok count =>
      let len := min count event.offered
      if len ≤ size then pure (len, event.buf.take len) else Exec.raise .fault

/-- A program with a table of events, and the two functions that register them with epoll. -/
structure Registrar (σ : Type) (size : Nat) where
  table : Field σ (State size)
  eventAdd : BitVec 32 → Nat → Exec σ Unit
  eventDel : Nat → Exec σ Unit

namespace Registrar

variable {σ : Type} (registrar : Registrar σ size)

def onTable (body : Method size α) : Exec σ α := Exec.on registrar.table body

/-- `handle_recv`, with the bytes that were received.  The kernel has `data` and
gives at most `sizeof(ev->buf)` of it. -/
def handleRecv (answer : Except Nat (List UInt8)) (fd : Int) (arg : Option Nat) :
    Exec σ (List UInt8) := do
  let ev ← registrar.onTable (deref arg)
  match answer with
  | .error _ =>
      registrar.eventDel ev
      registrar.onTable (modify fun state => state.close (state.events ev).fd)
      return []
  | .ok data =>
      let data := data.take size
      registrar.onTable (modify fun state =>
        state.put ev ((state.events ev).received data (List.length_take_le _ _)))
      registrar.eventDel ev
      if data.length > 0 then
        registrar.onTable (modify fun state =>
          state.put ev { state.events ev with len := BitVec.ofNat 32 data.length })
        registrar.onTable (storeBuf ev data.length 0)
        registrar.onTable (modify fun state => state.setEvent ev fd .handleSend ev)
        registrar.eventAdd Epoll.EPOLLOUT ev
      else
        registrar.onTable (modify fun state => state.close (state.events ev).fd)
      return data

/-- `handle_send`, with the bytes that were sent. -/
def handleSend (answer : Except Nat Nat) (fd : Int) (arg : Option Nat) :
    Exec σ (List UInt8) := do
  let ev ← registrar.onTable (deref arg)
  let state ← registrar.onTable get
  let (len, data) ← registrar.onTable (send (state.events ev) answer)
  registrar.eventDel ev
  if len > 0 then
    registrar.onTable (modify fun state => state.setEvent ev fd .handleRecv ev)
    registrar.eventAdd Epoll.EPOLLIN ev
  else
    registrar.onTable (modify fun state => state.close (state.events ev).fd)
  return data

end Registrar

def registrar : Registrar (State size) size where
  table := Field.whole
  eventAdd events ev := modify fun state => state.eventAdd events ev
  eventDel ev := modify fun state => state.eventDel ev

@[simp] theorem onTable_registrar (body : Method size α) : registrar.onTable body = body :=
  Exec.on_whole body

@[simp] theorem eventAdd_registrar (events : BitVec 32) (ev : Nat) :
    (registrar : Registrar (State size) size).eventAdd events ev =
      modify fun state => state.eventAdd events ev := rfl

@[simp] theorem eventDel_registrar (ev : Nat) :
    (registrar : Registrar (State size) size).eventDel ev =
      modify fun state => state.eventDel ev := rfl

def handleRecv (answer : Except Nat (List UInt8)) (fd : Int) (arg : Option Nat) :
    Method size (List UInt8) := registrar.handleRecv answer fd arg

def handleSend (answer : Except Nat Nat) (fd : Int) (arg : Option Nat) :
    Method size (List UInt8) := registrar.handleSend answer fd arg

end SimpleEpoll

end TestReactor
