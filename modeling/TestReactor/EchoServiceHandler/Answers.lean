import TestReactor.EchoServiceHandler.Spec
import TestReactor.ServerSocket.Receive
import TestReactor.ServerSocket.Send

namespace TestReactor

namespace EchoServiceHandler

/-! What the callbacks of a handler make of any answer of the kernel. -/

def farewell : List Request := [⟨false, .readable⟩, ⟨false, .writable⟩, ⟨false, .shutdown⟩]

structure Dies (handler next : State) : Prop where
  alive : next.alive = false
  requests : next.requests = handler.requests ++ farewell
  socket : next.socket = handler.socket
  received : next.received = handler.received
  sent : next.sent = handler.sent

def State.idled (handler : State) : State :=
  { handler with fifoOut := handler.fifoOut.compacted }

def Callback.Answered (handler : State) : Callback → Prop
  | .readable answers => handler.socket.sockfd = ServerSocket.INVALID_SOCKET ∨
      handler.socket.settle answers ≠ none
  | .writable answers => handler.socket.sockfd = ServerSocket.INVALID_SOCKET ∨
      handler.socket.settle answers ≠ none

/-- `recv` gives a byte at least; `send` does not fail, though it may take none. -/
def Callback.Served (handler : State) : Callback → Prop
  | .readable answers => handler.socket.taken (asInt handler.fifoIn.available) answers ≠ []
  | .writable answers => handler.socket.sockfd = ServerSocket.INVALID_SOCKET ∨
      ∃ count, handler.socket.settle answers = some (.ok count)

inductive Survives (handler : State) : Callback → State → Prop
  | moves {callback : Callback} {next : State} (moves : Moves handler callback next) :
      Survives handler callback next
  | idles (answers : List (Except Nat Nat)) : Survives handler (.writable answers) handler.idled

section

variable {handler : State}

theorem dies_destroy (state : State) (requests : state.requests = handler.requests)
    (socket : state.socket = handler.socket) (received : state.received = handler.received)
    (sent : state.sent = handler.sent) :
    ∃ next, destroy.run state = .ok () next ∧ Dies handler next := by
  refine ⟨_, rfl, rfl, ?_, socket, received, sent⟩
  show state.requests ++ farewell = _
  rw [requests]

/-! `onSocketReadable`, by the outcome of `receiveBytes(FIFOBuffer&)`. -/

section Readable

variable {answers : List (Except Nat (List UInt8))} {next : BasicFIFOBuffer.State UInt8}

theorem requests_quiet_in (emitted : next.emitted = handler.fifoIn.emitted) :
    (handler.withIn next).requests = handler.requests := by
  simp [State.withIn, emitted]

theorem onSocketReadable_congr {other : List (Except Nat (List UInt8))}
    (same : (handler.socket.receiveBytesFIFO answers).run handler.fifoIn =
      (handler.socket.receiveBytesFIFO other).run handler.fifoIn) :
    (onSocketReadable answers).run handler = (onSocketReadable other).run handler := by
  have entering : (onIn (handler.socket.receiveBytesFIFO answers)).run handler =
      (onIn (handler.socket.receiveBytesFIFO other)).run handler := by
    have same : handler.socket.receiveBytesFIFO answers handler.fifoIn =
      handler.socket.receiveBytesFIFO other handler.fifoIn := same
    show onIn _ handler = onIn _ handler
    rw [onIn, onIn, same]
  simp only [onSocketReadable, Exec.run_catching, EStateM.run_bind, EStateM.run_get, entering]

theorem dies_of_none {ret : Int}
    (ran : (handler.socket.receiveBytesFIFO answers).run handler.fifoIn = .ok (ret, []) next)
    (none : ret ≤ 0) (emitted : next.emitted = handler.fifoIn.emitted) :
    ∃ last, (onSocketReadable answers).run handler = .ok () last ∧ Dies handler last := by
  obtain ⟨last, destroyed, dies⟩ := @dies_destroy handler
    { handler.withIn next with received := handler.received ++ [] }
    (requests_quiet_in emitted) rfl (List.append_nil _) rfl
  refine ⟨last, ?_, dies⟩
  apply Exec.run_catching_ok
  simp only [EStateM.run_bind, EStateM.run_get, run_onIn ran, EStateM.run_modify, Exec.run_ite]
  rw [if_neg (by omega)]
  exact destroyed

theorem run_onIn_error {body : BasicFIFOBuffer.Method UInt8 α} {stop : Stop}
    (ran : body.run handler.fifoIn = .error stop next) :
    (onIn body).run handler = .error stop (handler.withIn next) := by
  have ran : body handler.fifoIn = .error stop next := ran
  show onIn body handler = _
  rw [onIn, ran]

theorem dies_of_throw {what : String}
    (ran : (handler.socket.receiveBytesFIFO answers).run handler.fifoIn =
      .error (.throw what) next) (emitted : next.emitted = handler.fifoIn.emitted) :
    ∃ last, (onSocketReadable answers).run handler = .ok () last ∧ Dies handler last := by
  obtain ⟨last, destroyed, dies⟩ :=
    dies_destroy (handler.withIn next) (requests_quiet_in emitted) rfl rfl rfl
  refine ⟨last, ?_, dies⟩
  rw [onSocketReadable, Exec.run_catching]
  simp only [EStateM.run_bind, EStateM.run_get, run_onIn_error ran]
  exact destroyed

end Readable

theorem settle_of_blocked {socket : ServerSocket} {answers : List (Except Nat (List UInt8))}
    {length : Int} {state next : σ}
    (ran : (socket.receiveBytes length answers).run state = .error .blocked next) :
    socket.sockfd ≠ ServerSocket.INVALID_SOCKET ∧ socket.settle answers = none := by
  unfold ServerSocket.receiveBytes at ran
  split at ran
  case isTrue => contradiction
  case isFalse connected =>
    refine ⟨connected, ?_⟩
    split at ran
    case h_1 unsettled => exact unsettled
    case h_2 => contradiction
    case h_3 errno settled =>
      rw [Exec.run_ite, Exec.run_ite] at ran
      split at ran
      · contradiction
      · split at ran
        · contradiction
        · cases ran

theorem onSocketReadable_of_not_arriving (working : Working handler)
    {answers : List (Except Nat (List UInt8))}
    (answered : (Callback.readable answers).Answered handler)
    (nothing : handler.socket.arriving answers = none) :
    ∃ next, (onSocketReadable answers).run handler = .ok () next ∧ Dies handler next := by
  have recursive := working.input.recursive
  have cells := working.input.sound.cells
  rcases ServerSocket.run_receiveBytes_of_not_arriving (asInt handler.fifoIn.available)
    nothing handler.fifoIn.compacted.entered with ⟨ret, negative, ran⟩ | ⟨what, ran⟩ | ran
  · exact dies_of_none (ServerSocket.run_receiveBytesFIFO_of_none cells recursive ran (by omega))
      (by omega) rfl
  · have thrown := @ServerSocket.run_receiveBytesFIFO_eq handler.socket answers _ cells recursive
    rw [ran, releasing_throw] at thrown
    exact dies_of_throw thrown rfl
  · obtain ⟨connected, unsettled⟩ := settle_of_blocked ran
    exact absurd unsettled (answered.resolve_left connected)

theorem onSocketReadable_of_taken (working : Working handler)
    {answers : List (Except Nat (List UInt8))} {data chunk : List UInt8}
    (arrives : handler.socket.arriving answers = some data)
    (taken : data.take (asSize (asInt handler.fifoIn.available)) = chunk)
    (nonempty : chunk ≠ []) :
    handler.fifoIn.used + chunk.length ≤ handler.fifoIn.size ∧
      (onSocketReadable answers).run handler = .ok () (handler.echoed chunk) := by
  obtain ⟨connected, settled⟩ := ServerSocket.connected_of_arriving arrives
  have sound := working.input.sound
  have recursive := working.input.recursive
  have within := sound.used_le
  have small := working.input.small
  have asked : asSize (asInt handler.fifoIn.available) =
      handler.fifoIn.size - handler.fifoIn.used := by
    rw [working.input.available, asInt_of_lt (by omega), asSize_of_lt (by omega)]
  have long := List.length_pos_iff.mpr nonempty
  have room : handler.fifoIn.used + chunk.length ≤ handler.fifoIn.size := by
    have length := List.length_take_le (asSize (asInt handler.fifoIn.available)) data
    rw [taken, asked] at length
    omega
  have accepts : BasicFIFOBuffer.Accepts handler.fifoIn chunk.length := by
    refine ⟨by omega, ?_⟩
    rw [working.input.isWritable]
    simp [BasicFIFOBuffer.State.isFull]
    omega
  -- The kernel might as well have had these bytes only.
  have exactly : handler.socket.settle [.ok chunk] = some (.ok chunk) := rfl
  have given := ServerSocket.run_receiveBytesFIFO connected exactly sound recursive small
    nonempty accepts
  have same := (ServerSocket.run_receiveBytesFIFO_of_taken connected settled taken sound
    recursive nonempty accepts).trans given.symm
  refine ⟨room, ?_⟩
  rw [onSocketReadable_congr same]
  exact run_onSocketReadable working connected exactly nonempty room

/-! `onSocketWritable`, by the outcome of `sendBytes(FIFOBuffer&)`. -/

section Writable

variable {answers : List (Except Nat Nat)} {next : BasicFIFOBuffer.State UInt8}

theorem onSocketWritable_congr {other : List (Except Nat Nat)}
    (same : (handler.socket.sendBytesFIFO answers).run handler.fifoOut =
      (handler.socket.sendBytesFIFO other).run handler.fifoOut) :
    (onSocketWritable answers).run handler = (onSocketWritable other).run handler := by
  have leaving : (onOut (handler.socket.sendBytesFIFO answers)).run handler =
      (onOut (handler.socket.sendBytesFIFO other)).run handler := by
    have same : handler.socket.sendBytesFIFO answers handler.fifoOut =
      handler.socket.sendBytesFIFO other handler.fifoOut := same
    show onOut _ handler = onOut _ handler
    rw [onOut, onOut, same]
  simp only [onSocketWritable, Exec.run_catching, EStateM.run_bind, EStateM.run_get, leaving]

theorem idles_of_none {ret : Int}
    (ran : (handler.socket.sendBytesFIFO answers).run handler.fifoOut =
      .ok (ret, []) handler.fifoOut.compacted) :
    (onSocketWritable answers).run handler = .ok () handler.idled := by
  apply Exec.run_catching_ok
  simp only [EStateM.run_bind, EStateM.run_get, run_onOut ran, EStateM.run_modify]
  simp [State.withOut, State.idled]

theorem run_onOut_error {body : BasicFIFOBuffer.Method UInt8 α} {stop : Stop}
    (ran : body.run handler.fifoOut = .error stop next) :
    (onOut body).run handler = .error stop (handler.withOut next) := by
  have ran : body handler.fifoOut = .error stop next := ran
  show onOut body handler = _
  rw [onOut, ran]

theorem dies_of_refused {what : String}
    (ran : (handler.socket.sendBytesFIFO answers).run handler.fifoOut =
      .error (.throw what) handler.fifoOut.compacted) :
    ∃ last, (onSocketWritable answers).run handler = .ok () last ∧ Dies handler last := by
  obtain ⟨last, destroyed, dies⟩ := @dies_destroy handler
    (handler.withOut handler.fifoOut.compacted) (by simp [State.withOut]) rfl rfl rfl
  refine ⟨last, ?_, dies⟩
  rw [onSocketWritable, Exec.run_catching]
  simp only [EStateM.run_bind, EStateM.run_get, run_onOut_error ran]
  exact destroyed

end Writable

/-! Both callbacks. -/

theorem run_readable (working : Working handler) {answers : List (Except Nat (List UInt8))}
    (answered : (Callback.readable answers).Answered handler) :
    ∃ next, (onSocketReadable answers).run handler = .ok () next ∧
      ((Callback.readable answers).Served handler ∧ Survives handler (.readable answers) next ∨
        ¬ (Callback.readable answers).Served handler ∧ Dies handler next) := by
  cases arrives : handler.socket.arriving answers with
  | none =>
      have unserved : ¬ (Callback.readable answers).Served handler := by
        simp [Callback.Served, ServerSocket.taken, arrives]
      obtain ⟨next, ran, dies⟩ := onSocketReadable_of_not_arriving working answered arrives
      exact ⟨next, ran, .inr ⟨unserved, dies⟩⟩
  | some data =>
      have taken := ServerSocket.taken_of_arriving arrives (asInt handler.fifoIn.available)
      by_cases served : data.take (asSize (asInt handler.fifoIn.available)) = []
      · obtain ⟨connected, settled⟩ := ServerSocket.connected_of_arriving arrives
        have received := ServerSocket.run_receiveBytes (asInt handler.fifoIn.available) connected
          settled handler.fifoIn.compacted.entered
        rw [served] at received
        obtain ⟨next, ran, dies⟩ := dies_of_none (ServerSocket.run_receiveBytesFIFO_of_none
          working.input.sound.cells working.input.recursive received (by simp)) (by simp) rfl
        exact ⟨next, ran, .inr ⟨not_not_intro (taken.trans served), dies⟩⟩
      · obtain ⟨room, ran⟩ := onSocketReadable_of_taken working arrives rfl served
        exact ⟨_, ran, .inl ⟨mt taken.symm.trans served, .moves (.echoed _ served room)⟩⟩

theorem run_writable (working : Working handler) {answers : List (Except Nat Nat)}
    (answered : (Callback.writable answers).Answered handler) :
    ∃ next, (onSocketWritable answers).run handler = .ok () next ∧
      ((Callback.writable answers).Served handler ∧ Survives handler (.writable answers) next ∨
        ¬ (Callback.writable answers).Served handler ∧ Dies handler next) := by
  have sound := working.output.sound
  have recursive := working.output.recursive
  by_cases connected : handler.socket.sockfd = ServerSocket.INVALID_SOCKET
  case pos =>
    have refused : (handler.socket.sendBytes (asInt handler.fifoOut.used) answers).run
        handler.fifoOut.compacted.entered = .ok (-1) handler.fifoOut.compacted.entered := by
      rw [ServerSocket.sendBytes, if_pos connected]
      rfl
    have ran := ServerSocket.run_sendBytesFIFO_of_none sound recursive refused (by decide)
    exact ⟨_, idles_of_none ran, .inl ⟨.inl connected, .idles answers⟩⟩
  have settles := answered.resolve_left connected
  cases settled : handler.socket.settle answers with
  | none => exact absurd settled settles
  | some answer =>
    cases answer with
    | error errno =>
        have refused : (handler.socket.sendBytes (asInt handler.fifoOut.used) answers).run
            handler.fifoOut.compacted.entered =
              .error (.throw (ServerSocket.message errno)) handler.fifoOut.compacted.entered := by
          rw [ServerSocket.sendBytes, if_neg connected, settled]
          rfl
        obtain ⟨next, ran, dies⟩ := dies_of_refused
          (ServerSocket.run_sendBytesFIFO_throw sound recursive refused)
        refine ⟨next, ran, .inr ⟨?_, dies⟩⟩
        rintro (invalid | ⟨count, sent⟩)
        · exact connected invalid
        · cases settled.symm.trans sent
    | ok count =>
        have served : (Callback.writable answers).Served handler := .inr ⟨count, settled⟩
        have same := ServerSocket.run_sendBytesFIFO_min sound recursive working.output.small
          connected settled
        rw [onSocketWritable_congr same]
        by_cases nothing : min count handler.fifoOut.used = 0
        · rw [nothing]
          have sent := ServerSocket.run_sendBytes (asInt handler.fifoOut.used) connected
            (show handler.socket.settle [.ok 0] = some (.ok 0) from rfl)
            handler.fifoOut.compacted.entered
          have ran := ServerSocket.run_sendBytesFIFO_of_none sound recursive sent (by simp)
          exact ⟨_, idles_of_none ran, .inl ⟨served, .idles answers⟩⟩
        · have positive : 0 < min count handler.fifoOut.used := by omega
          have enough : min count handler.fifoOut.used ≤ handler.fifoOut.used := by omega
          exact ⟨_, run_onSocketWritable working connected rfl positive enough,
            .inl ⟨served, .moves (.flushed _ positive enough)⟩⟩

/-- A callback whose system call comes back returns.  The handler survives it if and only if
it is served. -/
theorem run_callback (working : Working handler) {callback : Callback}
    (answered : callback.Answered handler) :
    ∃ next, callback.run.run handler = .ok () next ∧
      (callback.Served handler ∧ Survives handler callback next ∨
        ¬ callback.Served handler ∧ Dies handler next) := by
  cases callback with
  | readable answers => exact run_readable working answered
  | writable answers => exact run_writable working answered

theorem returns_of_unanswered (working : Working handler) {callback : Callback}
    (unanswered : ¬ callback.Answered handler) : callback.run.returns handler = none := by
  cases callback with
  | readable answers =>
      obtain ⟨connected, unsettled⟩ := not_or.mp unanswered
      have blocked : (handler.socket.receiveBytesFIFO answers).run handler.fifoIn =
          .error .blocked handler.fifoIn.compacted.entered := by
        rw [ServerSocket.run_receiveBytesFIFO_eq working.input.sound.cells
          working.input.recursive, ServerSocket.receiveBytes, if_neg connected,
          Classical.not_not.mp unsettled]
        rfl
      rw [Callback.run, Exec.returns, onSocketReadable, Exec.run_catching]
      simp only [EStateM.run_bind, EStateM.run_get, run_onIn_error blocked]
  | writable answers =>
      obtain ⟨connected, unsettled⟩ := not_or.mp unanswered
      have blocked : (handler.socket.sendBytesFIFO answers).run handler.fifoOut =
          .error .blocked handler.fifoOut.compacted.entered := by
        rw [ServerSocket.run_sendBytesFIFO_eq working.output.sound
          working.output.recursive, ServerSocket.sendBytes, if_neg connected,
          Classical.not_not.mp unsettled]
        rfl
      rw [Callback.run, Exec.returns, onSocketWritable, Exec.run_catching]
      simp only [EStateM.run_bind, EStateM.run_get, run_onOut_error blocked]

end

end EchoServiceHandler

end TestReactor
