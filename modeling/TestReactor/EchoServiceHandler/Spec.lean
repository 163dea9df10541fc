import TestReactor.EchoServiceHandler
import TestReactor.FifoBuffer.Refinement
import TestReactor.ServerSocket.Spec

namespace TestReactor

namespace EchoServiceHandler

open BasicFIFOBuffer

/-! What a callback of a live handler does, in closed form. -/

/-- A FIFO as a live handler has it: never in error, never at EOF. -/
structure Open (fifo : BasicFIFOBuffer.State UInt8) : Prop where
  sound : Sound fifo
  recursive : fifo.mutex.recursive = true
  size : fifo.size = BUFFER_SIZE
  valid : fifo.error = false
  running : fifo.eof = false

structure Working (handler : State) : Prop where
  input : Open handler.fifoIn
  output : Open handler.fifoOut
  alive : handler.alive = true

namespace State

def arrived (handler : State) (data : List UInt8) : BasicFIFOBuffer.State UInt8 :=
  (handler.fifoIn.compacted.appended data).notified handler.fifoIn.used

def written (handler : State) (data : List UInt8) : List UInt8 :=
  handler.fifoOut.accepted (handler.fifoIn.content ++ data)

def receiving (handler : State) (data : List UInt8) : State :=
  { handler.withIn (handler.arrived data) with
    received := handler.received ++ data }

def echoed (handler : State) (data : List UInt8) : State :=
  ((handler.receiving data).withOut (handler.fifoOut.put (handler.written data))).withIn
    (((handler.arrived data).drained (handler.written data).length).notified
      (handler.arrived data).used)

def flushed (handler : State) (count : Nat) : State :=
  { handler.withOut
      ((handler.fifoOut.compacted.drained count).notified handler.fifoOut.used) with
    sent := handler.sent ++ handler.fifoOut.content.take count }

end State

theorem run_onIn {body : BasicFIFOBuffer.Method UInt8 α} {handler : State} {value : α}
    {next : BasicFIFOBuffer.State UInt8} (ran : body.run handler.fifoIn = .ok value next) :
    (onIn body).run handler = .ok value (handler.withIn next) := by
  have ran : body handler.fifoIn = .ok value next := ran
  show onIn body handler = _
  rw [onIn, ran]

theorem run_onOut {body : BasicFIFOBuffer.Method UInt8 α} {handler : State} {value : α}
    {next : BasicFIFOBuffer.State UInt8} (ran : body.run handler.fifoOut = .ok value next) :
    (onOut body).run handler = .ok value (handler.withOut next) := by
  have ran : body handler.fifoOut = .ok value next := ran
  show onOut body handler = _
  rw [onOut, ran]

section Open

variable {fifo : BasicFIFOBuffer.State UInt8}

theorem Open.isWritable (isOpen : Open fifo) : fifo.isWritable = !fifo.isFull := by
  simp [BasicFIFOBuffer.State.isWritable, BasicFIFOBuffer.State.isValid, isOpen.valid,
    isOpen.running]

theorem Open.available (isOpen : Open fifo) : fifo.available = fifo.size - fifo.used :=
  SizeT.sub_of_le isOpen.sound.used_le

theorem Open.small (isOpen : Open fifo) : fifo.size < 2 ^ 31 := by
  rw [isOpen.size]
  decide

theorem Open.next {next : BasicFIFOBuffer.State UInt8} (isOpen : Open fifo)
    (sound : Sound next) (size : next.size = fifo.size) (mutex : next.mutex = fifo.mutex)
    (error : next.error = fifo.error) (eof : next.eof = fifo.eof) : Open next where
  sound := sound
  recursive := by rw [mutex]; exact isOpen.recursive
  size := size.trans isOpen.size
  valid := error.trans isOpen.valid
  running := eof.trans isOpen.running

theorem Open.arriving (isOpen : Open fifo) {data : List UInt8}
    (room : fifo.used + data.length ≤ fifo.size) :
    Open ((fifo.compacted.appended data).notified fifo.used) := by
  have fits : fifo.compacted.used + data.length ≤ fifo.compacted.size := by
    rw [compacted_used, compacted_size]
    exact room
  have sound := isOpen.sound.compacted.appended data rfl fits isOpen.valid
  exact isOpen.next sound.notified ((appended_size _ _).trans (compacted_size _)) rfl rfl rfl

theorem Open.put (isOpen : Open fifo) (data : List UInt8) :
    Open (fifo.put (fifo.accepted data)) := by
  have fields := put_fields fifo (fifo.accepted data)
  have sound := isOpen.sound.put (length_accepted_le data) fun _ => isOpen.valid
  exact isOpen.next sound fields.1 (mutex_put _) fields.2.2 fields.2.1

theorem Open.drained (isOpen : Open fifo) (count usedBefore : Nat) :
    Open ((fifo.drained count).notified usedBefore) :=
  isOpen.next (isOpen.sound.drained count).notified rfl rfl rfl rfl

theorem Open.compacted (isOpen : Open fifo) : Open fifo.compacted :=
  isOpen.next isOpen.sound.compacted (compacted_size fifo) rfl rfl rfl

end Open

section Callbacks

variable {handler : State} {data : List UInt8}

theorem content_arrived (working : Working handler)
    (room : handler.fifoIn.used + data.length ≤ handler.fifoIn.size) :
    (handler.arrived data).content = handler.fifoIn.content ++ data := by
  have sound := working.input.sound
  rw [State.arrived, notified_content, content_appended sound.compacted rfl
    (by rw [compacted_used, compacted_size]; exact room), content_compacted sound]

/-- The source passes the buffer from its first cell on: the content has just
been moved there. -/
theorem offered_arrived (working : Working handler) (nonempty : data ≠ [])
    (room : handler.fifoIn.used + data.length ≤ handler.fifoIn.size) :
    BasicFIFOBuffer.State.offered (handler.arrived data).buffer (handler.arrived data).used =
      handler.fifoIn.content ++ data := by
  have long := List.length_pos_iff.mpr nonempty
  have sound := (working.input.arriving room).sound
  have within : (handler.arrived data).used ≤ (handler.arrived data).buffer.used :=
    sound.used_le
  have used : (handler.arrived data).used = handler.fifoIn.used + data.length := rfl
  have some : ¬ ((handler.arrived data).used = 0 ∨
      (handler.arrived data).used > (handler.arrived data).buffer.size) := by
    simp only [Buffer.size]
    omega
  rw [← content_arrived working room, BasicFIFOBuffer.State.offered, if_neg some,
    Buffer.elements, List.take_take, Nat.min_eq_left within]
  rfl

theorem run_onSocketReadable {answers : List (Except Nat (List UInt8))}
    (working : Working handler)
    (connected : handler.socket.sockfd ≠ ServerSocket.INVALID_SOCKET)
    (settled : handler.socket.settle answers = some (.ok data)) (nonempty : data ≠ [])
    (room : handler.fifoIn.used + data.length ≤ handler.fifoIn.size) :
    (onSocketReadable answers).run handler = .ok () (handler.echoed data) := by
  have long := List.length_pos_iff.mpr nonempty
  have sound := working.input.sound
  have accepts : Accepts handler.fifoIn data.length := by
    refine ⟨by omega, ?_⟩
    rw [working.input.isWritable]
    simp [BasicFIFOBuffer.State.isFull]
    omega
  have arrived := run_onIn (ServerSocket.run_receiveBytesFIFO connected settled sound
    working.input.recursive working.input.small nonempty accepts)
  have wrote : (writeBuffer (handler.arrived data).buffer (handler.arrived data).used).run
      handler.fifoOut = .ok (handler.written data).length
        (handler.fifoOut.put (handler.written data)) := by
    rw [writeBuffer_eq, offered_arrived working nonempty room]
    exact returns_write working.output.sound working.output.recursive _
  have put : (onOut (writeBuffer (handler.arrived data).buffer
      (handler.arrived data).used)).run (handler.receiving data) =
        .ok (handler.written data).length
          ((handler.receiving data).withOut
            (handler.fifoOut.put (handler.written data))) :=
    run_onOut wrote
  have drained : (onIn (drain (handler.written data).length)).run
      ((handler.receiving data).withOut (handler.fifoOut.put (handler.written data))) =
        .ok () (handler.echoed data) :=
    run_onIn (run_drain (handler.written data).length
      (.of_recursive (working.input.arriving room).recursive))
  have echoes : echo.run (handler.receiving data) = .ok () (handler.echoed data) := by
    rw [echo, EStateM.run_bind, EStateM.run_get]
    show ((onOut (writeBuffer (handler.arrived data).buffer
      (handler.arrived data).used) >>= fun written => onIn (drain written)) :
        Method Unit).run (handler.receiving data) = _
    rw [EStateM.run_bind, put]
    exact drained
  apply Exec.run_catching_ok
  simp only [EStateM.run_bind, EStateM.run_get, arrived, EStateM.run_modify, Exec.run_ite]
  rw [if_pos (by omega)]
  exact echoes

theorem run_onSocketWritable {answers : List (Except Nat Nat)} {count : Nat}
    (working : Working handler)
    (connected : handler.socket.sockfd ≠ ServerSocket.INVALID_SOCKET)
    (settled : handler.socket.settle answers = some (.ok count)) (positive : 0 < count)
    (enough : count ≤ handler.fifoOut.used) :
    (onSocketWritable answers).run handler = .ok () (handler.flushed count) := by
  have output := working.output
  have flushed := run_onOut (ServerSocket.run_sendBytesFIFO connected settled output.sound
    output.recursive output.small positive enough)
  apply Exec.run_catching_ok
  simp only [EStateM.run_bind, EStateM.run_get, flushed, EStateM.run_modify]
  rfl

theorem Working.echoed (working : Working handler) (data : List UInt8)
    (room : handler.fifoIn.used + data.length ≤ handler.fifoIn.size) :
    Working (handler.echoed data) where
  input := (working.input.arriving room).drained _ _
  output := working.output.put _
  alive := working.alive

theorem Working.flushed (working : Working handler) (count : Nat) :
    Working (handler.flushed count) where
  input := working.input
  output := working.output.compacted.drained _ _
  alive := working.alive

end Callbacks

/-! The steps of a live handler. -/

theorem working_construct (socket : ServerSocket) : Working (construct socket true) := by
  have start : Open (BasicFIFOBuffer.ofSize BUFFER_SIZE true true) :=
    ⟨sound_build (.ofSize BUFFER_SIZE) true true, rfl, rfl, rfl, rfl⟩
  exact ⟨start, start, rfl⟩

/-- What an admitted callback moves: some bytes that fit, or some bytes that are
there. -/
inductive Moves (handler : State) : Callback → State → Prop
  | echoed (data : List UInt8) (nonempty : data ≠ [])
      (room : handler.fifoIn.used + data.length ≤ handler.fifoIn.size) :
      Moves handler (.readable answers) (handler.echoed data)
  | flushed (count : Nat) (positive : 0 < count)
      (enough : count ≤ handler.fifoOut.used) :
      Moves handler (.writable answers) (handler.flushed count)

section Steps

variable {handler : State}

theorem admits_readable (working : Working handler) {answers : List (Except Nat (List UInt8))} :
    handler.admits (.readable answers) = true ↔
      handler.socket.sockfd ≠ ServerSocket.INVALID_SOCKET ∧
      ∃ data, handler.socket.settle answers = some (.ok data) ∧ data ≠ [] ∧
        handler.fifoIn.used + data.length ≤ handler.fifoIn.size := by
  have within := working.input.sound.used_le
  have small := working.input.small
  simp only [State.admits, Bool.and_eq_true, decide_eq_true_eq, and_congr_right_iff]
  intro _
  split
  case h_1 data settled =>
    simp only [Bool.and_eq_true, decide_eq_true_eq, working.input.available, settled]
    rw [asInt_of_lt (by omega)]
    constructor
    · rintro ⟨some, room⟩
      exact ⟨data, rfl, List.length_pos_iff.mp some, by omega⟩
    · rintro ⟨_, ⟨rfl⟩, nonempty, room⟩
      exact ⟨List.length_pos_iff.mpr nonempty, by omega⟩
  case h_2 unsettled =>
    refine iff_of_false Bool.false_ne_true ?_
    rintro ⟨data, settled, _⟩
    exact unsettled data settled

theorem admits_writable (working : Working handler) {answers : List (Except Nat Nat)} :
    handler.admits (.writable answers) = true ↔
      handler.socket.sockfd ≠ ServerSocket.INVALID_SOCKET ∧
      ∃ count, handler.socket.settle answers = some (.ok count) ∧ 0 < count ∧
        count ≤ handler.fifoOut.used := by
  have within := working.output.sound.used_le
  have small := working.output.small
  simp only [State.admits, Bool.and_eq_true, decide_eq_true_eq, and_congr_right_iff]
  intro _
  split
  case h_1 count settled =>
    simp only [Bool.and_eq_true, decide_eq_true_eq, settled]
    rw [asInt_of_lt (by omega)]
    constructor
    · rintro ⟨some, enough⟩
      exact ⟨count, rfl, some, by omega⟩
    · rintro ⟨_, ⟨rfl⟩, positive, enough⟩
      exact ⟨positive, by omega⟩
  case h_2 unsettled =>
    refine iff_of_false Bool.false_ne_true ?_
    rintro ⟨count, settled, _⟩
    exact unsettled count settled

theorem step_readable {answers : List (Except Nat (List UInt8))} {data : List UInt8}
    (working : Working handler)
    (connected : handler.socket.sockfd ≠ ServerSocket.INVALID_SOCKET)
    (settled : handler.socket.settle answers = some (.ok data)) (nonempty : data ≠ [])
    (room : handler.fifoIn.used + data.length ≤ handler.fifoIn.size) :
    step handler (.readable answers) = some (handler.echoed data) := by
  have admitted := (admits_readable working).mpr ⟨connected, data, settled, nonempty, room⟩
  have ran := run_onSocketReadable working connected settled nonempty room
  have alive := (working.echoed data room).alive
  simp [step, admitted, Callback.run, Exec.returns, ran, alive]

theorem step_writable {answers : List (Except Nat Nat)} {count : Nat}
    (working : Working handler)
    (connected : handler.socket.sockfd ≠ ServerSocket.INVALID_SOCKET)
    (settled : handler.socket.settle answers = some (.ok count)) (positive : 0 < count)
    (enough : count ≤ handler.fifoOut.used) :
    step handler (.writable answers) = some (handler.flushed count) := by
  have admitted := (admits_writable working).mpr ⟨connected, count, settled, positive, enough⟩
  have ran := run_onSocketWritable working connected settled positive enough
  have alive := (working.flushed count).alive
  simp [step, admitted, Callback.run, Exec.returns, ran, alive]

theorem admits_of_step {next : State} {callback : Callback}
    (stepped : step handler callback = some next) : handler.admits callback = true := by
  cases admitted : handler.admits callback with
  | true => rfl
  | false => simp [step, admitted] at stepped

end Steps

/-- The step lemma: an admitted callback comes back with the handler alive. -/
theorem moves_of_admits {handler : State} {callback : Callback} (working : Working handler)
    (admitted : handler.admits callback = true) :
    ∃ next, step handler callback = some next ∧ Moves handler callback next := by
  cases callback with
  | readable answers =>
      obtain ⟨connected, data, settled, nonempty, room⟩ := (admits_readable working).mp admitted
      exact ⟨_, step_readable working connected settled nonempty room,
        .echoed data nonempty room⟩
  | writable answers =>
      obtain ⟨connected, count, settled, positive, enough⟩ := (admits_writable working).mp admitted
      exact ⟨_, step_writable working connected settled positive enough,
        .flushed count positive enough⟩

theorem moves_of_step {handler next : State} {callback : Callback}
    (working : Working handler) (stepped : step handler callback = some next) :
    Moves handler callback next := by
  obtain ⟨last, same, moves⟩ := moves_of_admits working (admits_of_step stepped)
  rw [stepped] at same
  cases same
  exact moves

theorem flushed_of_step {handler next : State} {answers : List (Except Nat Nat)}
    (working : Working handler) (stepped : step handler (.writable answers) = some next) :
    ∃ count, handler.socket.settle answers = some (.ok count) ∧ 0 < count ∧
      count ≤ handler.fifoOut.used ∧ next = handler.flushed count := by
  obtain ⟨connected, count, settled, positive, enough⟩ :=
    (admits_writable working).mp (admits_of_step stepped)
  rw [step_writable working connected settled positive enough] at stepped
  exact ⟨count, settled, positive, enough, (Option.some.inj stepped).symm⟩

theorem Working.next {handler next : State} {callback : Callback}
    (working : Working handler) (moves : Moves handler callback next) : Working next := by
  cases moves with
  | echoed data nonempty room => exact working.echoed data room
  | flushed count positive enough => exact working.flushed count

end EchoServiceHandler

end TestReactor
