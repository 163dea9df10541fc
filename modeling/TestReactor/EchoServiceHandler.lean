import TestReactor.FifoBuffer.Operation
import TestReactor.ServerSocket

namespace TestReactor

/-! The echo handler: one connection, an input and an output FIFO, and the calls
it makes on its reactor. -/

namespace EchoServiceHandler

open BasicFIFOBuffer (Emission)

inductive Interest where
  | readable
  | writable
  | shutdown
  deriving DecidableEq, Repr

structure Request where
  adds : Bool
  interest : Interest
  deriving DecidableEq, Repr

/-- A handler with the calls it has made on the reactor, in order, and the bytes
that have passed over its socket.  `alive` is false once it has deleted itself. -/
structure State where
  socket : ServerSocket
  fifoIn : BasicFIFOBuffer.State UInt8
  fifoOut : BasicFIFOBuffer.State UInt8
  requests : List Request
  received : List UInt8
  sent : List UInt8
  alive : Bool
  deriving DecidableEq, Repr

abbrev Method (α : Type) := Exec State α

def BUFFER_SIZE : Nat := 1024

def construct (socket : ServerSocket) (recursive : Bool) : State where
  socket := socket
  fifoIn := BasicFIFOBuffer.ofSize BUFFER_SIZE recursive true
  fifoOut := BasicFIFOBuffer.ofSize BUFFER_SIZE recursive true
  requests := [⟨true, .readable⟩, ⟨true, .shutdown⟩]
  received := []
  sent := []
  alive := true

/-! The slots.  They run while a FIFO is at work, but all they do is to call the
reactor. -/

def onFIFOInWritable (b : Bool) : Request := ⟨b, .readable⟩

def onFIFOOutReadable (b : Bool) : Request := ⟨b, .writable⟩

/-- `_fifoIn.writable` is connected to `onFIFOInWritable`. -/
def slotsIn (emission : Emission) : Option Request :=
  match emission.signal with
  | .writable => some (onFIFOInWritable emission.value)
  | .readable => none

/-- `_fifoOut.readable` is connected to `onFIFOOutReadable`. -/
def slotsOut (emission : Emission) : Option Request :=
  match emission.signal with
  | .readable => some (onFIFOOutReadable emission.value)
  | .writable => none

namespace State

def withIn (handler : State) (next : BasicFIFOBuffer.State UInt8) : State :=
  { handler with
    fifoIn := next
    requests := handler.requests ++
      (next.emitted.drop handler.fifoIn.emitted.length).filterMap slotsIn }

def withOut (handler : State) (next : BasicFIFOBuffer.State UInt8) : State :=
  { handler with
    fifoOut := next
    requests := handler.requests ++
      (next.emitted.drop handler.fifoOut.emitted.length).filterMap slotsOut }

end State

def onIn (body : BasicFIFOBuffer.Method UInt8 α) : Method α := fun handler =>
  match body handler.fifoIn with
  | .ok value next => .ok value (handler.withIn next)
  | .error stop next => .error stop (handler.withIn next)

def onOut (body : BasicFIFOBuffer.Method UInt8 α) : Method α := fun handler =>
  match body handler.fifoOut with
  | .ok value next => .ok value (handler.withOut next)
  | .error stop next => .error stop (handler.withOut next)

/-- `delete this`. -/
def destroy : Method Unit :=
  modify fun handler =>
    { handler with
      requests := handler.requests ++
        [⟨false, .readable⟩, ⟨false, .writable⟩, ⟨false, .shutdown⟩]
      alive := false }

/-- `_fifoIn.drain(_fifoOut.write(_fifoIn.buffer(), _fifoIn.used()))`. -/
def echo : Method Unit := do
  let handler ← get
  let written ← onOut
    (BasicFIFOBuffer.writeBuffer handler.fifoIn.buffer handler.fifoIn.used)
  onIn (BasicFIFOBuffer.drain written)

def onSocketReadable (answers : List (Except Nat (List UInt8))) : Method Unit :=
  Exec.catching
    (do
      let handler ← get
      let (len, data) ← onIn (handler.socket.receiveBytesFIFO answers)
      modify fun handler => { handler with received := handler.received ++ data }
      if len > 0 then echo else destroy)
    fun _ => destroy

def onSocketWritable (answers : List (Except Nat Nat)) : Method Unit :=
  Exec.catching
    (do
      let handler ← get
      let (_, data) ← onOut (handler.socket.sendBytesFIFO answers)
      modify fun handler => { handler with sent := handler.sent ++ data })
    fun _ => destroy

def onSocketShutdown : Method Unit := destroy

/-! Runs of a live handler. -/

inductive Callback where
  | readable (answers : List (Except Nat (List UInt8)))
  | writable (answers : List (Except Nat Nat))

def Callback.run : Callback → Method Unit
  | .readable answers => onSocketReadable answers
  | .writable answers => onSocketWritable answers

/-- The callbacks of a live handler: `recv` gives one byte or more, up to the
length asked for, and `send` takes one or more, up to the length offered. -/
def State.admits (handler : State) : Callback → Bool
  | .readable answers =>
      decide (handler.socket.sockfd ≠ ServerSocket.INVALID_SOCKET) &&
        match handler.socket.settle answers with
        | some (.ok data) =>
            decide (1 ≤ data.length) &&
              decide ((data.length : Int) ≤ asInt handler.fifoIn.available)
        | _ => false
  | .writable answers =>
      decide (handler.socket.sockfd ≠ ServerSocket.INVALID_SOCKET) &&
        match handler.socket.settle answers with
        | some (.ok count) =>
            decide (1 ≤ count) && decide ((count : Int) ≤ asInt handler.fifoOut.used)
        | _ => false

def step (handler : State) (callback : Callback) : Option State :=
  if handler.admits callback then
    match callback.run.returns handler with
    | some (_, next) => if next.alive then some next else none
    | none => none
  else none

end EchoServiceHandler

end TestReactor
