import Mathlib.Algebra.GroupWithZero.Nat
import Mathlib.Logic.Function.Basic
import TestReactor.Buffer

namespace TestReactor

namespace Buffer

/-! The other operations of `Buffer`, and programs that use several buffers. -/

section Operations

variable [Inhabited T]

def setCapacity (newCapacity : Nat) (preserveContent : Bool) : Method T Unit := do
  let buffer ← get
  if !buffer.ownMem then
    Exec.raise (.throw "Cannot resize buffer which does not own its storage.")
  else if newCapacity ≠ buffer.capacity then
    let ptr ←
      if newCapacity > 0 then do
        let newSz := if buffer.used < newCapacity then buffer.used else newCapacity
        let kept ← if preserveContent && buffer.ptr.isSome then load 0 newSz else pure []
        pure (some (Cells.overwrite (newArray newCapacity) 0 kept))
      else pure none
    modify fun buffer => { buffer with ptr := ptr, capacity := newCapacity }
    Exec.when (newCapacity < buffer.used) (modify fun buffer => { buffer with used := newCapacity })

/-- `assign(const T* buf, sz)` with the `sz` elements at `buf`. -/
def assign (data : List T) : Method T Unit := do
  if 0 = data.length then pure ()
  else
    Exec.when (data.length > (← get).capacity) (resize data.length false)
    store 0 data
    modify fun buffer => { buffer with used := data.length }

/-- `append(const T* buf, sz)`.  The sum of the sizes is a `size_t`. -/
def append (data : List T) : Method T Unit := do
  if 0 = data.length then pure ()
  else
    resize (((← get).used + data.length) % 2 ^ 64) true
    store ((← get).used - data.length) data

/-- `append(T val)`. -/
def appendValue (val : T) : Method T Unit := do
  resize (((← get).used + 1) % 2 ^ 64) true
  store ((← get).used - 1) [val]

def clear [Zero T] : Method T Unit := do
  store 0 (List.replicate (← get).used 0)

end Operations

/-- `Buffer(const Buffer& other)`. -/
def ofBuffer (other : Buffer T) : Buffer T where
  capacity := other.used
  used := other.used
  ptr := if 0 < other.used then some other.elements else none
  ownMem := true

/-- What a move leaves behind. -/
def moved (T : Type) : Buffer T where
  capacity := 0
  used := 0
  ptr := none
  ownMem := false

/-! Buffers have numbers here, and memory that is not owned belongs to one buffer only. -/

abbrev Objects (T : Type) := Nat → Option (Buffer T)

namespace Objects

open Function (update)

abbrev Method (T α : Type) := Exec (Objects T) α

def object (id : Nat) : Method T (Buffer T) := do
  match (← get) id with
  | some buffer => pure buffer
  | none => Exec.raise .fault

def put (id : Nat) (buffer : Buffer T) : Method T Unit :=
  modify fun objects => update objects id (some buffer)

def call (id : Nat) (body : Buffer.Method T Unit) : Method T Unit := do
  let buffer ← object id
  match body.run buffer with
  | .ok _ next => put id next
  | .error stop next => do
      put id next
      Exec.raise stop

end Objects

inductive Op (T : Type) where
  | ofLength (id length : Nat)
  | ofMemory (id : Nat) (memory : List T)
  | ofCopy (id : Nat) (memory : List T)
  | ofBuffer (id other : Nat)
  | ofMoved (id other : Nat)
  | copy (id other : Nat)
  | move (id other : Nat)
  | resize (id newCapacity : Nat) (preserveContent : Bool)
  | setCapacity (id newCapacity : Nat) (preserveContent : Bool)
  | assign (id : Nat) (data : List T)
  | append (id : Nat) (data : List T)
  | appendValue (id : Nat) (val : T)
  | appendBuffer (id other : Nat)
  | swap (id other : Nat)
  | clear (id : Nat)

namespace Op

open Objects

/-- What both moves do. -/
def takeOver (id other : Nat) : Objects.Method T Unit := do
  let buffer ← object other
  put id buffer
  put other (moved T)

def run [Inhabited T] [Zero T] : Op T → Objects.Method T Unit
  | ofLength id length => put id (Buffer.ofLength length)
  | ofMemory id memory => put id (Buffer.ofMemory memory)
  | ofCopy id memory => put id (Buffer.ofCopy memory)
  | ofBuffer id other => do put id (Buffer.ofBuffer (← object other))
  | ofMoved id other => takeOver id other
  | copy id other =>
      Exec.when (id ≠ other) do
        let buffer ← object id
        let tmp := Buffer.ofBuffer (← object other)
        put id { buffer with
          ptr := tmp.ptr, capacity := tmp.capacity, used := tmp.used, ownMem := tmp.ownMem }
  | move id other => takeOver id other
  | resize id newCapacity preserveContent => call id (Buffer.resize newCapacity preserveContent)
  | setCapacity id newCapacity preserveContent =>
      call id (Buffer.setCapacity newCapacity preserveContent)
  | assign id data => call id (Buffer.assign data)
  | append id data => call id (Buffer.append data)
  | appendValue id val => call id (Buffer.appendValue val)
  | appendBuffer id other => do call id (Buffer.append (← object other).elements)
  | swap id other => do
      let buffer ← object id
      let taken ← object other
      put id taken
      put other buffer
  | clear id => call id Buffer.clear

end Op

end Buffer

end TestReactor
