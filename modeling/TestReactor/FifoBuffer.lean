import Mathlib.Algebra.Group.Nat.Defs
import TestReactor.Buffer

namespace TestReactor

namespace SizeT

/-- Subtraction of two `size_t` values: below zero it wraps around. -/
def sub (left right : Nat) : Nat :=
  if right ≤ left then left - right else left + 2 ^ 64 - right

theorem sub_of_le {left right : Nat} (h : right ≤ left) :
    sub left right = left - right := if_pos h

end SizeT

namespace BasicFIFOBuffer

inductive Signal where
  | writable
  | readable
  deriving DecidableEq, Repr

/-- A signal that was raised, with the counters its slots would have seen. -/
structure Emission where
  signal : Signal
  value : Bool
  begin : Nat
  used : Nat
  deriving DecidableEq, Repr

structure State (T : Type) where
  buffer : Buffer T
  begin : Nat
  used : Nat
  mutex : Mutex
  notify : Bool
  eof : Bool
  error : Bool
  emitted : List Emission
  deriving DecidableEq, Repr

abbrev Method (T α : Type) := Exec (State T) α

namespace State

def size (fifo : State T) : Nat := fifo.buffer.size

def available (fifo : State T) : Nat := SizeT.sub fifo.size fifo.used

def isValid (fifo : State T) : Bool := !fifo.error

def isEmpty (fifo : State T) : Bool := decide (0 = fifo.used)

def isFull (fifo : State T) : Bool := decide (fifo.size = fifo.used)

def hasEOF (fifo : State T) : Bool := fifo.eof

def isEOF (fifo : State T) : Bool := fifo.isEmpty && fifo.eof

def isReadable (fifo : State T) : Bool := !fifo.isEmpty && fifo.isValid

def isWritable (fifo : State T) : Bool :=
  !fifo.isFull && fifo.isValid && !fifo.eof

/-- `length` cut down to what the buffer holds. -/
def clamped (fifo : State T) (length : Nat) : Nat :=
  if length > fifo.used then fifo.used else length

/-- The same where 0 asks for everything. -/
def clampedOrAll (fifo : State T) (length : Nat) : Nat :=
  if 0 = length ∨ length > fifo.used then fifo.used else length

/-- The elements the buffer holds, `_buffer[_begin .. _begin + _used)`. -/
def content (fifo : State T) : List T :=
  Cells.slice fifo.buffer.cells fifo.begin fifo.used

end State

def mutexField : Field (State T) Mutex where
  get := State.mutex
  set mutex fifo := { fifo with mutex }
  get_set _ _ := rfl
  set_get _ := rfl
  set_set _ _ _ := rfl

def bufferField : Field (State T) (Buffer T) where
  get := State.buffer
  set buffer fifo := { fifo with buffer }
  get_set _ _ := rfl
  set_get _ := rfl
  set_set _ _ _ := rfl

section Constructors

variable [Inhabited T]

private def construct (buffer : Buffer T) (used : Nat) (recursive notify : Bool) :
    State T where
  buffer := buffer
  begin := 0
  used := used
  mutex := Mutex.free recursive
  notify := notify
  eof := false
  error := false
  emitted := []

/-! The three constructors.  `recursive` says which kind of mutex the buffer is
taken to have: the source declares a `std::mutex`, which is not recursive. -/

def ofSize (size : Nat) (recursive : Bool) (notify : Bool := false) : State T :=
  construct (Buffer.ofLength size) 0 recursive notify

def ofMemory (memory : List T) (recursive : Bool) (notify : Bool := false) :
    State T :=
  construct (Buffer.ofMemory memory) 0 recursive notify

def ofCopy (memory : List T) (recursive : Bool) (notify : Bool := false) :
    State T :=
  construct (Buffer.ofCopy memory) memory.length recursive notify

end Constructors

def locked (body : Method T α) : Method T α := scopedLock mutexField body

def emit (signal : Signal) (value : Bool) : Method T Unit :=
  modify fun fifo =>
    { fifo with
      emitted := fifo.emitted ++ [⟨signal, value, fifo.begin, fifo.used⟩] }

def raiseEdge (signal : Signal) (rises falls : Bool) : Method T Unit :=
  if rises then emit signal true
  else if falls then emit signal false
  else pure ()

/-- The private `notify(usedBefore)`. -/
def notify (usedBefore : Nat) : Method T Unit := do
  let fifo ← get
  raiseEdge .readable (usedBefore = 0 ∧ fifo.used > 0)
    (usedBefore > 0 ∧ 0 = fifo.used)
  raiseEdge .writable (usedBefore = fifo.size ∧ fifo.used < fifo.size)
    (usedBefore < fifo.size ∧ fifo.used = fifo.size)

def notifyIfOn (usedBefore : Nat) : Method T Unit := do
  let fifo ← get
  Exec.when fifo.notify (notify usedBefore)

/-- `std::memmove(_buffer.begin(), _buffer.begin() + _begin, _used * sizeof(T))`
and `_begin = 0`. -/
def compact : Method T Unit := do
  let fifo ← get
  Exec.on bufferField (Buffer.move 0 fifo.begin fifo.used)
  modify fun fifo => { fifo with begin := 0 }

/-! `begin` and `next` return pointers into `_buffer`; here they are offsets
from its first cell. -/

def begin : Method T Nat := locked do
  let fifo ← get
  Exec.when (fifo.begin ≠ 0) compact
  pure 0

def next : Method T Nat := locked do
  let start ← begin
  let fifo ← get
  pure (start + fifo.used)

/-- The compaction that `write` and `advance` make when `length` elements do
not fit behind the content. -/
def makeRoom (length : Nat) : Method T Unit := do
  let fifo ← get
  Exec.when (SizeT.sub fifo.size (fifo.begin + fifo.used) < length) do
    let source ← begin
    let fifo ← get
    Exec.on bufferField (Buffer.move 0 source fifo.used)
    modify fun fifo => { fifo with begin := 0 }

def resize [Inhabited T] (newSize : Nat) (preserveContent : Bool := true) :
    Method T Unit := locked do
  let fifo ← get
  if preserveContent ∧ newSize < fifo.used then
    Exec.raise (.throw "Can not resize FIFO without data loss.")
  else
    let usedBefore := fifo.used
    Exec.on bufferField (Buffer.resize newSize preserveContent)
    Exec.when (!preserveContent) (modify fun fifo => { fifo with used := 0 })
    notifyIfOn usedBefore

/-- `peek(T* pBuffer, length)`: the count it returns and the elements it puts
at `pBuffer`. -/
def peek (length : Nat) : Method T (Nat × List T) :=
  if 0 = length then pure (0, []) else locked do
    let fifo ← get
    if !fifo.isReadable then pure (0, [])
    else
      let length := fifo.clamped length
      let data ← Exec.on bufferField (Buffer.load fifo.begin length)
      pure (length, data)

/-- `peek(Buffer<T>& buffer, length)`: the count and the target after it. -/
def peekBuffer [Inhabited T] (target : Buffer T) (length : Nat := 0) :
    Method T (Nat × Buffer T) := locked do
  let fifo ← get
  if !fifo.isReadable then pure (0, target)
  else
    let length := fifo.clampedOrAll length
    let (_, target) ← Exec.callOn target (Buffer.resize length true)
    let (count, data) ← peek length
    let (_, target) ← Exec.callOn target (Buffer.store 0 data)
    pure (count, target)

/-- The common tail of both `read`s: `count` elements leave, and `_begin` moves
by the length that was asked for. -/
def take (usedBefore count length : Nat) : Method T Unit := do
  Exec.assert (decide (usedBefore ≥ count))
  modify fun fifo => { fifo with used := fifo.used - count }
  modify fun fifo =>
    { fifo with begin := if 0 = fifo.used then 0 else fifo.begin + length }
  notifyIfOn usedBefore

def read (length : Nat) : Method T (Nat × List T) :=
  if 0 = length then pure (0, []) else locked do
    let fifo ← get
    if !fifo.isReadable then pure (0, [])
    else
      let (readLen, data) ← peek length
      take fifo.used readLen length
      pure (readLen, data)

def readBuffer [Inhabited T] (target : Buffer T) (length : Nat := 0) :
    Method T (Nat × Buffer T) := locked do
  let fifo ← get
  if !fifo.isReadable then pure (0, target)
  else
    let (readLen, target) ← peekBuffer target length
    take fifo.used readLen length
    pure (readLen, target)

/-- `memcpy(begin() + _used, ...)` and the move of `_used` behind the copy. -/
def putBehind (data : List T) : Method T Unit := do
  let start ← begin
  let fifo ← get
  Exec.on bufferField (Buffer.store (start + fifo.used) data)
  modify fun fifo => { fifo with used := fifo.used + data.length }

/-- `write(const T* pBuffer, length)` with the `length` elements at `pBuffer`. -/
def write (data : List T) : Method T Nat :=
  if 0 = data.length then pure 0 else locked do
    let fifo ← get
    if !fifo.isWritable then pure 0
    else
      makeRoom data.length
      let fifo ← get
      let usedBefore := fifo.used
      let available := SizeT.sub (SizeT.sub fifo.size fifo.used) fifo.begin
      let len := min data.length available
      putBehind (data.take len)
      let fifo ← get
      Exec.assert (decide (fifo.used ≤ fifo.size))
      notifyIfOn usedBefore
      pure len

/-- `write(const Buffer<T>& buffer, length)`. -/
def writeBuffer (source : Buffer T) (length : Nat := 0) : Method T Nat :=
  let length := if length = 0 ∨ length > source.size then source.size else length
  write (Cells.slice source.cells 0 length)

def drain (length : Nat := 0) : Method T Unit := locked do
  let fifo ← get
  let usedBefore := fifo.used
  if 0 = length ∨ length ≥ fifo.used then
    modify fun fifo => { fifo with begin := 0, used := 0 }
  else
    modify fun fifo =>
      { fifo with begin := fifo.begin + length, used := fifo.used - length }
  notifyIfOn usedBefore

/-- The checks that `copy` and `advance` share. -/
def checkRoom (length : Nat) : Method T Unit := do
  let fifo ← get
  if length > fifo.available then Exec.raise (.throw "Cannot extend buffer.")
  else if !fifo.isWritable then Exec.raise (.throw "Buffer not writable.")
  else pure ()

def copy (data : List T) : Method T Unit :=
  if 0 = data.length then pure () else locked do
    checkRoom data.length
    let fifo ← get
    let usedBefore := fifo.used
    putBehind data
    notifyIfOn usedBefore

def advance (length : Nat) : Method T Unit := locked do
  checkRoom length
  makeRoom length
  let fifo ← get
  let usedBefore := fifo.used
  modify fun fifo => { fifo with used := fifo.used + length }
  notifyIfOn usedBefore

/-- A caller that fills up to `available()` elements behind `next()` and then
advances over them.  To fill more is a fault of the caller. -/
def fill (data : List T) : Method T Unit := do
  let fifo ← get
  if data.length > fifo.available then Exec.raise .fault
  else
    let start ← next
    Exec.on bufferField (Buffer.store start data)
    advance data.length

/-- `operator[]`. -/
def subscript (index : Nat) : Method T T := locked do
  let fifo ← get
  -- The format expression hands `_used - 1` to the exception; only that it is
  -- thrown is kept here.
  if index ≥ fifo.used then Exec.raise (.throw "Index out of bounds")
  else
    Exec.assert (decide (fifo.begin + index < fifo.size))
    match fifo.buffer.cells[fifo.begin + index]? with
    | some element => pure element
    | none => Exec.raise .fault

def setError (error : Bool := true) : Method T Unit :=
  if error then locked do
    let fifo ← get
    Exec.when (fifo.isReadable ∧ fifo.notify) (emit .readable false)
    Exec.when (fifo.isWritable ∧ fifo.notify) (emit .writable false)
    modify fun fifo => { fifo with error := true, used := 0 }
  else locked do
    modify fun fifo => { fifo with error := false }
    let fifo ← get
    Exec.when (fifo.notify ∧ !fifo.eof) (emit .writable true)

def setEOF (eof : Bool := true) : Method T Unit := locked do
  let fifo ← get
  Exec.when fifo.notify (emit .writable (!eof))
  modify fun fifo => { fifo with eof }

end BasicFIFOBuffer

end TestReactor
