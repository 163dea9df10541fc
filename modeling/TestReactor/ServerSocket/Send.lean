import TestReactor.ServerSocket.Spec

namespace TestReactor

/-! `sendBytes(FIFOBuffer&)` by what the kernel answers. -/

namespace ServerSocket

open BasicFIFOBuffer

variable {socket : ServerSocket} {answers : List (Except Nat Nat)} {fifo : State UInt8}

/-- The section that `sendBytes(FIFOBuffer&)` locks, up to its `send`. -/
theorem run_sendBytesFIFO_eq (sound : Sound fifo) (recursive : fifo.mutex.recursive = true) :
    (socket.sendBytesFIFO answers).run fifo =
      releasing mutexField
        (match (socket.sendBytes (asInt fifo.used) answers).run fifo.compacted.entered with
        | .ok ret next =>
            ((do
              let data ← Exec.on bufferField (Buffer.load 0 ret.toNat)
              Exec.when (ret > 0) (BasicFIFOBuffer.drain ret.toNat)
              pure (ret, data)) : Method UInt8 (Int × List UInt8)).run next
        | .error stop next => .error stop next) := by
  have moved := run_begin sound.entered (lockable_entered recursive)
  have lockable : (mutexField.get fifo).Lockable := .of_recursive recursive
  rw [compacted_entered] at moved
  rw [sendBytesFIFO, locked, run_scopedLock_of_lockable mutexField _ lockable]
  apply congrArg
  show EStateM.run _ fifo.entered = _
  rw [EStateM.run_bind, moved]
  show EStateM.run _ fifo.compacted.entered = _
  rw [EStateM.run_bind, EStateM.run_get]
  show EStateM.run (socket.sendBytes (asInt fifo.compacted.entered.used) answers >>= _)
    fifo.compacted.entered = _
  rw [entered_used, compacted_used, EStateM.run_bind]
  cases (socket.sendBytes (asInt fifo.used) answers).run fifo.compacted.entered with
  | ok ret next => rfl
  | error stop next => rfl

theorem run_sendBytesFIFO_of_none {ret : Int} (sound : Sound fifo)
    (recursive : fifo.mutex.recursive = true)
    (sent : (socket.sendBytes (asInt fifo.used) answers).run fifo.compacted.entered =
      .ok ret fifo.compacted.entered) (none : ret ≤ 0) :
    (socket.sendBytesFIFO answers).run fifo = .ok (ret, []) fifo.compacted := by
  have nothing : ret.toNat = 0 := by omega
  have loaded : (Exec.on bufferField (Buffer.load 0 0)).run fifo.compacted.entered =
      .ok [] fifo.compacted.entered := by
    rw [run_on_load _ _ _ (Nat.zero_le _), Cells.slice_zero]
  have negative : decide (ret > 0) = false := decide_eq_false (by omega)
  rw [run_sendBytesFIFO_eq sound recursive, sent]
  simp only [EStateM.run_bind, nothing, loaded, negative, Exec.run_when_false, EStateM.run_pure,
    releasing_ok]
  rfl

theorem run_sendBytesFIFO_throw {what : String} (sound : Sound fifo)
    (recursive : fifo.mutex.recursive = true)
    (thrown : (socket.sendBytes (asInt fifo.used) answers).run fifo.compacted.entered =
      .error (.throw what) fifo.compacted.entered) :
    (socket.sendBytesFIFO answers).run fifo = .error (.throw what) fifo.compacted := by
  rw [run_sendBytesFIFO_eq sound recursive, thrown]
  rfl

theorem run_sendBytesFIFO_min {count : Nat} (sound : Sound fifo)
    (recursive : fifo.mutex.recursive = true) (small : fifo.size < 2 ^ 31)
    (connected : socket.sockfd ≠ INVALID_SOCKET)
    (settled : socket.settle answers = some (.ok count)) :
    (socket.sendBytesFIFO answers).run fifo =
      (socket.sendBytesFIFO [.ok (min count fifo.used)]).run fifo := by
  have within := sound.used_le
  have offered : asSize (asInt fifo.used) = fifo.used := by
    rw [asInt_of_lt (by omega), asSize_of_lt (by omega)]
  rw [run_sendBytesFIFO_eq sound recursive, run_sendBytesFIFO_eq sound recursive,
    run_sendBytes _ connected settled, run_sendBytes _ connected rfl, offered, Nat.min_assoc,
    Nat.min_self]

end ServerSocket

end TestReactor
