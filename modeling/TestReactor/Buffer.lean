import TestReactor.Cells
import TestReactor.Exec

namespace TestReactor

/-- `Buffer<T>`.  The storage behind `_ptr` is a list of `_capacity` cells, or
`none` for the null pointer; a buffer that does not own its memory sees the
cells its creator passed in. -/
structure Buffer (T : Type) where
  capacity : Nat
  used : Nat
  ptr : Option (List T)
  ownMem : Bool
  deriving DecidableEq, Repr

namespace Buffer

abbrev Method (T α : Type) := Exec (Buffer T) α

def size (buffer : Buffer T) : Nat := buffer.used

/-- The cells an access through `_ptr` can touch. -/
def cells (buffer : Buffer T) : List T := buffer.ptr.getD []

/-- The elements `begin()` up to `end()`. -/
def elements (buffer : Buffer T) : List T := buffer.cells.take buffer.used

/-- `_capacity` is the size of the storage and `_used` stays within it. -/
structure WellFormed (buffer : Buffer T) : Prop where
  capacity_eq : buffer.capacity = buffer.cells.length
  used_le : buffer.used ≤ buffer.capacity

/-! `new T[length]` leaves the cells unspecified; the model fills them with the
default element, and no result below depends on which one it is. -/

section Construction

variable [Inhabited T]

def newArray (length : Nat) : List T := List.replicate length default

def ofLength (length : Nat) : Buffer T where
  capacity := length
  used := length
  ptr := if 0 < length then some (newArray length) else none
  ownMem := true

/-- `Buffer(T* pMem, length)`: the caller's memory, not owned. -/
def ofMemory (memory : List T) : Buffer T where
  capacity := memory.length
  used := memory.length
  ptr := some memory
  ownMem := false

/-- `Buffer(const T* pMem, length)`: an owned copy. -/
def ofCopy (memory : List T) : Buffer T where
  capacity := memory.length
  used := memory.length
  ptr := if 0 < memory.length then some memory else none
  ownMem := true

end Construction

/-- `memcpy` into the storage from `start` on. -/
def store (start : Nat) (data : List T) : Method T Unit := do
  let buffer ← get
  if data = [] then pure ()
  else if start + data.length ≤ buffer.cells.length then
    set { buffer with ptr := some (Cells.overwrite buffer.cells start data) }
  else Exec.raise .fault

/-- `memcpy` of `count` elements out of the storage. -/
def load (start count : Nat) : Method T (List T) := do
  let buffer ← get
  if count = 0 then pure []
  else if start + count ≤ buffer.cells.length then
    pure (Cells.slice buffer.cells start count)
  else Exec.raise .fault

/-- `memmove` inside the storage. -/
def move (target source count : Nat) : Method T Unit := do
  let data ← load source count
  store target data

def resize [Inhabited T] (newCapacity : Nat) (preserveContent : Bool) :
    Method T Unit := do
  let buffer ← get
  if !buffer.ownMem then
    Exec.raise (.throw "Cannot resize buffer which does not own its storage.")
  else
    Exec.assert (decide (0 < newCapacity))
    if newCapacity > buffer.capacity then
      let kept ←
        if preserveContent && buffer.ptr.isSome then load 0 buffer.used else pure []
      modify fun buffer =>
        { buffer with
          ptr := some (Cells.overwrite (newArray newCapacity) 0 kept)
          capacity := newCapacity }
    modify fun buffer => { buffer with used := newCapacity }

end Buffer

end TestReactor
