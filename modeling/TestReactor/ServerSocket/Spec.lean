import TestReactor.FifoBuffer.Spec
import TestReactor.ServerSocket

namespace TestReactor

/-! The transfers between a connected socket and a sound FIFO. -/

theorem asInt_of_lt {size : Nat} (small : size < 2 ^ 31) : asInt size = size := by
  have same : size % 4294967296 = size := Nat.mod_eq_of_lt (by omega)
  rw [asInt, BitVec.toInt_eq_toNat_of_lt]
  · simp [same]
  · simp [same]
    omega

theorem asSize_of_lt {length : Nat} (small : length < 2 ^ 64) :
    asSize (length : Int) = length := by
  unfold asSize
  omega

namespace ServerSocket

open BasicFIFOBuffer

variable {socket : ServerSocket}

theorem run_receiveBytes (length : Int) {answers : List (Except Nat (List UInt8))}
    {data : List UInt8} (connected : socket.sockfd ≠ INVALID_SOCKET)
    (settled : socket.settle answers = some (.ok data)) (state : σ) :
    (socket.receiveBytes length answers).run state =
      .ok ((data.take (asSize length)).length, data.take (asSize length)) state := by
  simp only [receiveBytes, if_neg connected, settled]
  rfl

theorem run_sendBytes (length : Int) {answers : List (Except Nat Nat)} {count : Nat}
    (connected : socket.sockfd ≠ INVALID_SOCKET)
    (settled : socket.settle answers = some (.ok count)) (state : σ) :
    (socket.sendBytes length answers).run state =
      .ok ((min count (asSize length) : Nat) : Int) state := by
  simp only [sendBytes, if_neg connected, settled]
  rfl

variable {fifo : State UInt8}

theorem run_receiveBytesFIFO_of_taken {answers : List (Except Nat (List UInt8))}
    {data chunk : List UInt8} (connected : socket.sockfd ≠ INVALID_SOCKET)
    (settled : socket.settle answers = some (.ok data))
    (taken : data.take (asSize (asInt fifo.available)) = chunk) (sound : Sound fifo)
    (recursive : fifo.mutex.recursive = true) (nonempty : chunk ≠ [])
    (accepts : Accepts fifo chunk.length) :
    (socket.receiveBytesFIFO answers).run fifo =
      .ok (chunk.length, chunk) ((fifo.compacted.appended chunk).notified fifo.used) := by
  have within := sound.used_le
  have room : fifo.used + chunk.length ≤ fifo.size := by
    have enough := accepts.1
    omega
  have size := sound.compacted.size_le
  rw [compacted_size] at size
  have moved := run_next sound.entered recursive
  have received := run_receiveBytes (asInt fifo.compacted.available) connected settled
    fifo.compacted.entered
  rw [compacted_available, taken, ← compacted_available] at received
  have stored : (Exec.on bufferField (Buffer.store fifo.used chunk)).run
      fifo.compacted.entered = .ok () (fifo.compacted.staged chunk).entered :=
    run_on_store fifo.compacted.entered fifo.used chunk (by rw [entered_buffer]; omega)
  have staged := sound.compacted.staged chunk (by rw [compacted_used, compacted_size]; omega)
  have accepted : Accepts (fifo.compacted.staged chunk).entered chunk.length := by
    simpa [Accepts] using accepts
  have advanced := run_advance chunk.length staged.entered recursive accepted
  have fits : (fifo.compacted.staged chunk).entered.short chunk.length = false := by
    simp only [State.short, entered_size, entered_begin, entered_used, staged_size,
      compacted_size, staged_begin, staged_used, compacted_begin, compacted_used,
      decide_eq_false_iff_not]
    omega
  have positive : 0 < chunk.length := List.length_pos_iff.mpr nonempty
  rw [roomed_of_fits _ _ fits] at advanced
  apply run_locked_ok (.of_recursive recursive)
  simp [moved, received, stored, positive, advanced]
  rfl

theorem run_receiveBytesFIFO {answers : List (Except Nat (List UInt8))} {data : List UInt8}
    (connected : socket.sockfd ≠ INVALID_SOCKET)
    (settled : socket.settle answers = some (.ok data)) (sound : Sound fifo)
    (recursive : fifo.mutex.recursive = true) (small : fifo.size < 2 ^ 31)
    (nonempty : data ≠ []) (accepts : Accepts fifo data.length) :
    (socket.receiveBytesFIFO answers).run fifo =
      .ok (data.length, data) ((fifo.compacted.appended data).notified fifo.used) := by
  have available : fifo.available = fifo.size - fifo.used := SizeT.sub_of_le sound.used_le
  have taken : data.take (asSize (asInt fifo.available)) = data := by
    rw [available, asInt_of_lt (by omega), asSize_of_lt (by omega)]
    exact List.take_of_length_le accepts.1
  exact run_receiveBytesFIFO_of_taken connected settled taken sound recursive nonempty accepts

theorem run_sendBytesFIFO {answers : List (Except Nat Nat)} {count : Nat}
    (connected : socket.sockfd ≠ INVALID_SOCKET)
    (settled : socket.settle answers = some (.ok count)) (sound : Sound fifo)
    (recursive : fifo.mutex.recursive = true) (small : fifo.size < 2 ^ 31)
    (positive : 0 < count) (enough : count ≤ fifo.used) :
    (socket.sendBytesFIFO answers).run fifo =
      .ok (count, fifo.content.take count)
        ((fifo.compacted.drained count).notified fifo.used) := by
  have within := sound.used_le
  have size := sound.compacted.size_le
  rw [compacted_size] at size
  have offered : min count (asSize (asInt fifo.used)) = count := by
    rw [asInt_of_lt (by omega), asSize_of_lt (by omega)]
    omega
  have moved := run_begin sound.entered (lockable_entered recursive)
  have taken := run_sendBytes (asInt fifo.used) connected settled fifo.compacted.entered
  have loaded : (Exec.on bufferField (Buffer.load 0 count)).run fifo.compacted.entered =
      .ok (fifo.content.take count) fifo.compacted.entered := by
    rw [run_on_load _ _ _ (by rw [entered_buffer]; omega), ← content_compacted sound]
    simp only [State.content, compacted_begin, compacted_used, Cells.take_slice,
      Nat.min_eq_left enough, entered_buffer]
  have drained : (drain count).run fifo.compacted.entered =
      .ok () ((fifo.compacted.drained count).notified fifo.used).entered :=
    run_drain count (.of_recursive recursive)
  rw [offered] at taken
  apply run_locked_ok (.of_recursive recursive)
  simp [moved, taken, loaded, positive, drained]

end ServerSocket

end TestReactor
