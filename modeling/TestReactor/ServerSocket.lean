import Mathlib.Algebra.Group.Int.Defs
import TestReactor.Errno
import TestReactor.FifoBuffer

namespace TestReactor

/-! `ServerSocket`: the transfers between a socket and its caller.  What the
kernel answers is a parameter. -/

/-- A `size_t` cast to `int`. -/
def asInt (size : Nat) : Int := (BitVec.ofNat 32 size).toInt

/-- An `int` that a system call takes as its `size_t` length. -/
def asSize (length : Int) : Nat := (length % 2 ^ 64).toNat

structure ServerSocket where
  sockfd : Int
  blocking : Bool
  deriving DecidableEq, Repr

namespace ServerSocket

def INVALID_SOCKET : Int := -1

def message (code : Nat) (arg : String := "") : String :=
  "ServerSocket error: " ++ arg ++ " (" ++ toString code ++ ")"

def error (code : Nat) (arg : String := "") : Exec σ α :=
  Exec.raise (.throw (message code arg))

/-- The loop around a system call: a blocking socket tries again after EINTR.
There is no result while the kernel has not given an answer that ends it. -/
def settle (socket : ServerSocket) : List (Except Nat α) → Option (Except Nat α)
  | [] => none
  | .error errno :: later =>
      if socket.blocking && decide (errno = Errno.EINTR) then socket.settle later
      else some (.error errno)
  | .ok value :: _ => some (.ok value)

/-- `receiveBytes(void*, int)`: what it returns and the bytes it puts at the
pointer.  The kernel has `data` and gives at most `length` of it. -/
def receiveBytes (socket : ServerSocket) (length : Int)
    (answers : List (Except Nat (List UInt8))) : Exec σ (Int × List UInt8) :=
  if socket.sockfd = INVALID_SOCKET then pure (-1, [])
  else
    match socket.settle answers with
    | none => Exec.raise .blocked
    | some (.ok data) =>
        let data := data.take (asSize length)
        pure (data.length, data)
    | some (.error errno) =>
        if errno = Errno.EAGAIN ∧ !socket.blocking then pure (-1, [])
        else if errno = Errno.EAGAIN ∨ errno = Errno.ETIMEDOUT then pure (-2, [])
        else error errno

/-- `sendBytes(const void*, int)`: the kernel takes at most `length` bytes. -/
def sendBytes (socket : ServerSocket) (length : Int)
    (answers : List (Except Nat Nat)) : Exec σ Int :=
  if socket.sockfd = INVALID_SOCKET then pure (-1)
  else
    match socket.settle answers with
    | none => Exec.raise .blocked
    | some (.ok count) => pure (min count (asSize length) : Nat)
    | some (.error errno) => error errno

open BasicFIFOBuffer (Method locked bufferField)

/-- `receiveBytes(FIFOBuffer&)`, with the bytes that were received. -/
def receiveBytesFIFO (socket : ServerSocket)
    (answers : List (Except Nat (List UInt8))) : Method UInt8 (Int × List UInt8) :=
  locked do
    let start ← BasicFIFOBuffer.next
    let fifo ← get
    let (ret, data) ← receiveBytes socket (asInt fifo.available) answers
    Exec.on bufferField (Buffer.store start data)
    Exec.when (ret > 0) (BasicFIFOBuffer.advance ret.toNat)
    pure (ret, data)

/-- `sendBytes(FIFOBuffer&)`, with the bytes that were sent. -/
def sendBytesFIFO (socket : ServerSocket) (answers : List (Except Nat Nat)) :
    Method UInt8 (Int × List UInt8) :=
  locked do
    let start ← BasicFIFOBuffer.begin
    let fifo ← get
    let ret ← sendBytes socket (asInt fifo.used) answers
    let data ← Exec.on bufferField (Buffer.load start ret.toNat)
    Exec.when (ret > 0) (BasicFIFOBuffer.drain ret.toNat)
    pure (ret, data)

end ServerSocket

end TestReactor
