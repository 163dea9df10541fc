import TestReactor.Buffer.Operations
import TestReactor.Heap

namespace TestReactor

namespace Buffer

/-! `Buffer<T>` with its arrays in memory: what `new[]` and `delete[]` do, and which
buffers point where. -/

/-- An array.  `dynamic` is for those that `new[]` has made; the others are the caller's. -/
structure Block (T : Type) where
  cells : List T
  dynamic : Bool

structure Members where
  capacity : Nat
  used : Nat
  ptr : Option Nat
  ownMem : Bool
  deriving DecidableEq, Repr

def Members.moved : Members := ⟨0, 0, none, false⟩

structure Memory (T : Type) where
  objects : Nat → Option Members
  heap : Heap (Block T)

namespace Memory

open Function (update)

abbrev Method (T α : Type) := Exec (Memory T) α

def empty : Memory T := ⟨fun _ => none, Heap.empty⟩

def object (id : Nat) : Method T Members := do
  match (← get).objects id with
  | some members => pure members
  | none => Exec.raise .fault

def put (id : Nat) (members : Option Members) : Method T Unit :=
  modify fun memory => { memory with objects := update memory.objects id members }

def badAlloc : String := "std::bad_alloc"

/-- `new T[length]`.  No array is longer than the largest `ptrdiff_t`. -/
def newArray [Inhabited T] (granted : Bool) (length : Nat) : Method T (Option Nat) := do
  if granted = true ∧ length < 2 ^ 63 then
    let memory ← get
    set { memory with heap := memory.heap.alloc ⟨Buffer.newArray length, true⟩ }
    pure (some memory.heap.next)
  else Exec.raise (.throw badAlloc)

/-- `delete[]`, which is for null and for what `new[]` has made. -/
def deleteArray : Option Nat → Method T Unit
  | none => pure ()
  | some address => do
      let memory ← get
      match memory.heap.block address with
      | some block =>
          if block.dynamic then set { memory with heap := memory.heap.release address }
          else Exec.raise .fault
      | none => Exec.raise .fault

/-- The array behind a pointer, for an access of at least one element. -/
def array (ptr : Option Nat) : Method T (Nat × Block T) := do
  match ptr with
  | none => Exec.raise .fault
  | some address =>
      match (← get).heap.block address with
      | some block => pure (address, block)
      | none => Exec.raise .fault

/-- `memcpy` or `memset` to `ptr + start`. -/
def store (ptr : Option Nat) (start : Nat) (data : List T) : Method T Unit := do
  if data = [] then pure ()
  else
    let (address, block) ← array ptr
    if start + data.length ≤ block.cells.length then
      modify fun memory =>
        { memory with
          heap := memory.heap.write address
            { block with cells := Cells.overwrite block.cells start data } }
    else Exec.raise .fault

/-- The first `count` elements at `ptr`, as `memcpy` reads them. -/
def load (ptr : Option Nat) (count : Nat) : Method T (List T) := do
  if count = 0 then pure []
  else
    let (_, block) ← array ptr
    if count ≤ block.cells.length then pure (block.cells.take count)
    else Exec.raise .fault

/-! Constructors and destructor. -/

def ofLength [Inhabited T] (granted : Bool) (length : Nat) : Method T Members := do
  let ptr ← if length > 0 then newArray granted length else pure none
  pure ⟨length, length, ptr, true⟩

/-- The caller's array is one that no other buffer has. -/
def ofMemory (data : List T) : Method T Members := do
  let memory ← get
  set { memory with heap := memory.heap.alloc ⟨data, false⟩ }
  pure ⟨data.length, data.length, some memory.heap.next, false⟩

def ofCopy [Inhabited T] (granted : Bool) (data : List T) : Method T Members := do
  if data.length > 0 then
    let ptr ← newArray granted data.length
    store ptr 0 data
    pure ⟨data.length, data.length, ptr, true⟩
  else pure ⟨data.length, data.length, none, true⟩

def ofBuffer [Inhabited T] (granted : Bool) (other : Members) : Method T Members := do
  if other.used ≠ 0 then
    let ptr ← newArray granted other.used
    store ptr 0 (← load other.ptr other.used)
    pure ⟨other.used, other.used, ptr, true⟩
  else pure ⟨other.used, other.used, none, true⟩

/-- `~Buffer()`. -/
def destroy (members : Members) : Method T Unit :=
  Exec.when (members.ownMem && members.ptr.isSome) (deleteArray members.ptr)

section Methods

variable [Inhabited T]

def resize (granted : Bool) (id newCapacity : Nat) (preserveContent : Bool) :
    Method T Unit := do
  let this ← object id
  if !this.ownMem then
    Exec.raise (.throw "Cannot resize buffer which does not own its storage.")
  else
    Exec.assert (decide (0 < newCapacity))
    if newCapacity > this.capacity then
      let ptr ← newArray granted newCapacity
      Exec.when (preserveContent && this.ptr.isSome) do
        store ptr 0 (← load this.ptr this.used)
      deleteArray this.ptr
      put id (some { this with ptr := ptr, capacity := newCapacity, used := newCapacity })
    else put id (some { this with used := newCapacity })

def setCapacity (granted : Bool) (id newCapacity : Nat) (preserveContent : Bool) :
    Method T Unit := do
  let this ← object id
  if !this.ownMem then
    Exec.raise (.throw "Cannot resize buffer which does not own its storage.")
  else if newCapacity ≠ this.capacity then
    let ptr ←
      if newCapacity > 0 then do
        let ptr ← newArray granted newCapacity
        let newSz := if this.used < newCapacity then this.used else newCapacity
        Exec.when (preserveContent && this.ptr.isSome) do
          store ptr 0 (← load this.ptr newSz)
        pure ptr
      else pure none
    deleteArray this.ptr
    let used := if newCapacity < this.used then newCapacity else this.used
    put id (some { this with ptr := ptr, capacity := newCapacity, used := used })

def assign (granted : Bool) (id : Nat) (data : List T) : Method T Unit := do
  if 0 = data.length then pure ()
  else
    Exec.when (data.length > (← object id).capacity) (resize granted id data.length false)
    store (← object id).ptr 0 data
    put id (some { ← object id with used := data.length })

/-- `append(const T* buf, sz)`.  What is at `buf` is read behind the `resize`. -/
def append (granted : Bool) (id sz : Nat) (buf : Method T (List T)) : Method T Unit := do
  if 0 = sz then pure ()
  else
    resize granted id (((← object id).used + sz) % 2 ^ 64) true
    let this ← object id
    store this.ptr (this.used - sz) (← buf)

def appendValue (granted : Bool) (id : Nat) (val : T) : Method T Unit := do
  resize granted id (((← object id).used + 1) % 2 ^ 64) true
  let this ← object id
  store this.ptr (this.used - 1) [val]

def clear [Zero T] (id : Nat) : Method T Unit := do
  let this ← object id
  store this.ptr 0 (List.replicate this.used 0)

end Methods

end Memory

/-- An operation, with whether `new[]` gets its memory in it, or the end of a buffer. -/
inductive Command (T : Type) where
  | op (granted : Bool) (op : Op T)
  | destroy (id : Nat)

namespace Command

open Memory
open Function (update)

def run [Inhabited T] [Zero T] : Command T → Memory.Method T Unit
  | .op granted (.ofLength id length) => do put id (some (← Memory.ofLength granted length))
  | .op _ (.ofMemory id memory) => do put id (some (← Memory.ofMemory memory))
  | .op granted (.ofCopy id memory) => do put id (some (← Memory.ofCopy granted memory))
  | .op granted (.ofBuffer id other) => do
      put id (some (← Memory.ofBuffer granted (← object other)))
  | .op _ (.ofMoved id other) => do
      put id (some (← object other))
      put other (some Members.moved)
  | .op granted (.copy id other) =>
      Exec.when (id ≠ other) do
        let tmp ← Memory.ofBuffer granted (← object other)
        let this ← object id
        put id (some tmp)
        Memory.destroy this
  | .op _ (.move id other) => do
      let this ← object id
      Exec.when this.ownMem (deleteArray this.ptr)
      put id (some (← object other))
      put other (some Members.moved)
  | .op granted (.resize id newCapacity preserveContent) =>
      Memory.resize granted id newCapacity preserveContent
  | .op granted (.setCapacity id newCapacity preserveContent) =>
      Memory.setCapacity granted id newCapacity preserveContent
  | .op granted (.assign id data) => Memory.assign granted id data
  | .op granted (.append id data) => Memory.append granted id data.length (pure data)
  | .op granted (.appendValue id val) => Memory.appendValue granted id val
  | .op granted (.appendBuffer id other) => do
      let buf ← object other
      Memory.append granted id buf.used (Memory.load buf.ptr buf.used)
  | .op _ (.swap id other) => do
      let this ← object id
      let taken ← object other
      put id (some taken)
      put other (some this)
  | .op _ (.clear id) => Memory.clear id
  | .destroy id => do
      Memory.destroy (← object id)
      put id none

/-- What a program has to see to: constructors make new buffers, the others are there, a
size that is asked for is positive, and its own arrays are arrays. -/
def Admits (memory : Memory T) : Command T → Prop
  | .op _ (.ofLength id _) => memory.objects id = none
  | .op _ (.ofMemory id data) | .op _ (.ofCopy id data) =>
      memory.objects id = none ∧ data.length < 2 ^ 63
  | .op _ (.ofBuffer id other) | .op _ (.ofMoved id other) =>
      memory.objects id = none ∧ (memory.objects other).isSome
  | .op _ (.copy id other) | .op _ (.move id other) | .op _ (.swap id other)
  | .op _ (.appendBuffer id other) =>
      (memory.objects id).isSome ∧ (memory.objects other).isSome
  | .op _ (.resize id newCapacity _) => (memory.objects id).isSome ∧ 0 < newCapacity
  | .op _ (.assign id data) | .op _ (.append id data) =>
      (memory.objects id).isSome ∧ data.length < 2 ^ 63
  | .op _ (.setCapacity id _ _) | .op _ (.appendValue id _) | .op _ (.clear id)
  | .destroy id => (memory.objects id).isSome

instance (memory : Memory T) (command : Command T) : Decidable (command.Admits memory) :=
  match command with
  | .op _ (.ofLength id _) => inferInstanceAs (Decidable (memory.objects id = none))
  | .op _ (.ofMemory _ _) | .op _ (.ofCopy _ _) | .op _ (.ofBuffer _ _)
  | .op _ (.ofMoved _ _) | .op _ (.copy _ _) | .op _ (.move _ _) | .op _ (.swap _ _)
  | .op _ (.appendBuffer _ _) | .op _ (.resize _ _ _) | .op _ (.assign _ _)
  | .op _ (.append _ _) => inferInstanceAs (Decidable (_ ∧ _))
  | .op _ (.setCapacity id _ _) | .op _ (.appendValue id _) | .op _ (.clear id)
  | .destroy id => inferInstanceAs (Decidable ((memory.objects id).isSome = true))

def step [Inhabited T] [Zero T] (memory : Memory T) (command : Command T) :
    Option (Memory T) :=
  if command.Admits memory then (command.run.returns memory).map Prod.snd else none

def value [Inhabited T] [Zero T] : Command T → Objects.Method T Unit
  | .op _ operation => operation.run
  | .destroy id => modify fun objects => update objects id none

end Command

end Buffer

end TestReactor
