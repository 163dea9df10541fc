import TestReactor.EchoServiceHandler.Spec

namespace TestReactor

namespace EchoServiceHandler

open BasicFIFOBuffer

/-! Which runs of a handler echo every byte. -/

/-- The bytes received are those sent followed by those held. -/
def Conserved (handler : State) : Prop :=
  handler.received =
    handler.sent ++ handler.fifoOut.content ++ handler.fifoIn.content

/-- A readable callback needs room in `_fifoOut`: without it `write` returns 0,
and `drain(0)` drops everything. -/
def FindsRoom (handler : State) : Callback → Prop
  | .readable _ => handler.fifoOut.isFull = false
  | .writable _ => True

section Contents

variable {handler : State} {data : List UInt8}

theorem content_out_echoed (working : Working handler) (data : List UInt8) :
    (handler.echoed data).fifoOut.content =
      handler.fifoOut.content ++ handler.written data :=
  content_put working.output.sound (length_accepted_le _)

theorem content_in_echoed (working : Working handler)
    (room : handler.fifoIn.used + data.length ≤ handler.fifoIn.size) :
    (handler.echoed data).fifoIn.content =
      if 0 = (handler.written data).length then []
      else (handler.fifoIn.content ++ data).drop (handler.written data).length := by
  have sound : Sound (handler.arrived data) := (working.input.arriving room).sound
  show (((handler.arrived data).drained (handler.written data).length).notified _).content
    = _
  rw [notified_content, content_drained _ sound, content_arrived working room]

theorem content_out_flushed {count : Nat} (working : Working handler) (positive : 0 < count) :
    (handler.flushed count).fifoOut.content = handler.fifoOut.content.drop count := by
  have sound := working.output.sound
  show ((handler.fifoOut.compacted.drained count).notified _).content = _
  rw [notified_content, content_drained count sound.compacted, if_neg (by omega),
    content_compacted sound]

theorem written_of_full (working : Working handler) (data : List UInt8)
    (full : handler.fifoOut.isFull = true) :
    handler.written data = [] := by
  have unwritable : handler.fifoOut.isWritable = false := by
    rw [working.output.isWritable, full]
    rfl
  simp [State.written, State.accepted, unwritable]

theorem written_eq (working : Working handler) (data : List UInt8) :
    handler.written data = (handler.fifoIn.content ++ data).take
      (BUFFER_SIZE - handler.fifoOut.content.length) := by
  rw [length_content working.output.sound, ← working.output.size]
  cases full : handler.fifoOut.isFull with
  | true =>
      have used := of_decide_eq_true full
      rw [written_of_full working data full, used, Nat.sub_self, List.take_zero]
  | false =>
      have writable : handler.fifoOut.isWritable = true := by
        rw [working.output.isWritable, full]
        rfl
      exact if_pos writable

/-- With room in `_fifoOut` something is written, and it is the front of what
`_fifoIn` holds. -/
theorem written_of_room (working : Working handler) (nonempty : data ≠ [])
    (room : handler.fifoOut.isFull = false) :
    0 < (handler.written data).length ∧
      handler.written data ++
          (handler.fifoIn.content ++ data).drop (handler.written data).length =
        handler.fifoIn.content ++ data := by
  have long := List.length_pos_iff.mpr nonempty
  have free : 0 < BUFFER_SIZE - handler.fifoOut.content.length := by
    have apart := of_decide_eq_false room
    have within := working.output.sound.used_le
    rw [length_content working.output.sound, ← working.output.size]
    omega
  rw [written_eq working]
  generalize BUFFER_SIZE - handler.fifoOut.content.length = count at free ⊢
  constructor
  · rw [List.length_take, List.length_append]
    omega
  · rw [List.length_take]
    rcases Nat.le_total count (handler.fifoIn.content ++ data).length with part | all
    · rw [Nat.min_eq_left part, List.take_append_drop]
    · rw [Nat.min_eq_right all, List.take_of_length_le all, List.drop_length,
        List.append_nil]

end Contents

theorem conserved_step {handler next : State} {callback : Callback}
    (working : Working handler) (conserved : Conserved handler)
    (moves : Moves handler callback next) (finds : FindsRoom handler callback) :
    Conserved next := by
  unfold Conserved at conserved ⊢
  cases moves with
  | echoed data nonempty room =>
      obtain ⟨some, split⟩ := written_of_room working nonempty finds
      calc handler.received ++ data
          = handler.sent ++ handler.fifoOut.content ++
              (handler.fifoIn.content ++ data) := by
            rw [conserved, List.append_assoc]
        _ = handler.sent ++ (handler.fifoOut.content ++ handler.written data) ++
              (handler.fifoIn.content ++ data).drop (handler.written data).length := by
            rw [← split]
            simp only [List.append_assoc, List.drop_left]
        _ = _ := by
            rw [content_out_echoed working, content_in_echoed working room,
              if_neg (by omega)]
            rfl
  | flushed count positive enough =>
      rw [content_out_flushed working positive]
      calc handler.received
          = handler.sent ++ (handler.fifoOut.content.take count ++
              handler.fifoOut.content.drop count) ++ handler.fifoIn.content := by
            rw [List.take_append_drop, conserved]
        _ = _ := by
            rw [← List.append_assoc]
            rfl

/-- A readable callback on a full `_fifoOut` loses what it received. -/
theorem finds_of_conserved {handler next : State} {callback : Callback}
    (working : Working handler) (conserved : Conserved handler)
    (moves : Moves handler callback next) (kept : Conserved next) :
    FindsRoom handler callback := by
  cases moves with
  | flushed count positive enough => trivial
  | echoed data nonempty room =>
      cases full : handler.fifoOut.isFull with
      | false => exact full
      | true =>
          have long := List.length_pos_iff.mpr nonempty
          have none := written_of_full working data full
          unfold Conserved at conserved kept
          rw [content_out_echoed working, content_in_echoed working room, none] at kept
          have lengths := congrArg List.length
            (show handler.received ++ data = handler.sent ++ (handler.fifoOut.content ++ []) ++
              [] from kept)
          simp only [conserved, List.length_append, List.length_nil] at lengths
          omega

/-- A live handler loses, duplicates and reorders no byte throughout exactly the
runs in which every readable callback finds room in `_fifoOut`; and no admitted
callback ends its life. -/
theorem conserved_iff_finds_room (socket : ServerSocket) (callbacks : List Callback) :
    Conserved (construct socket true) ∧
      (Runs.Always step Conserved (construct socket true) callbacks ↔
        Runs.Each step FindsRoom (construct socket true) callbacks) ∧
      ∀ handler, Runs.exec step (construct socket true) callbacks = some handler →
        ∀ callback, handler.admits callback = true →
          ∃ next, step handler callback = some next := by
  have start := working_construct socket
  have empty : Conserved (construct socket true) := by
    unfold Conserved
    rw [content_nil rfl, content_nil rfl]
    rfl
  refine ⟨empty, ?_, ?_⟩
  · refine Runs.always_iff_each (fun handler => Working handler ∧ Conserved handler)
      (fun handler callback next holds stepped finds => ?_) (fun handler holds => holds.2)
      (fun handler callback next holds stepped kept => ?_) ⟨start, empty⟩
    · have moves := moves_of_step holds.1 stepped
      exact ⟨holds.1.next moves, conserved_step holds.1 holds.2 moves finds⟩
    · exact finds_of_conserved holds.1 holds.2 (moves_of_step holds.1 stepped) kept
  · intro handler reached callback admitted
    have working : Working handler := Runs.exec_keeps _
      (fun handler callback next working stepped =>
        working.next (moves_of_step working stepped)) start reached
    obtain ⟨next, stepped, _⟩ := moves_of_admits working admitted
    exact ⟨next, stepped⟩

theorem full_of_first (socket : ServerSocket) {data : List UInt8}
    (long : data.length = BUFFER_SIZE) :
    ((construct socket true).echoed data).fifoOut.content = data ∧
      ((construct socket true).echoed data).fifoIn.content = [] ∧
      ((construct socket true).echoed data).fifoOut.isFull = true := by
  have start := working_construct socket
  have room : (construct socket true).fifoIn.used + data.length ≤
      (construct socket true).fifoIn.size := by
    rw [start.input.size, long]
    exact Nat.le_of_eq (Nat.zero_add _)
  have written : (construct socket true).written data = data := by
    show data.take BUFFER_SIZE = data
    exact List.take_of_length_le (Nat.le_of_eq long)
  have working := start.echoed data room
  have out := content_out_echoed start data
  rw [written] at out
  have held : ((construct socket true).echoed data).fifoOut.content = data := out
  refine ⟨held, ?_, ?_⟩
  · rw [content_in_echoed start room, written, long, if_neg (by decide)]
    exact List.drop_eq_nil_of_le (Nat.le_of_eq long)
  · have used := length_content working.output.sound
    rw [held, long] at used
    rw [BasicFIFOBuffer.State.isFull, working.output.size, used]
    exact decide_eq_true rfl

/-- 1024 bytes fill `_fifoOut`; the byte that follows is lost. -/
theorem byte_after_full_output_is_lost :
    ∃ handler, Runs.exec step (construct ⟨3, false⟩ true)
        [.readable [.ok (List.replicate 1024 0)], .readable [.ok [7]]] = some handler ∧
      handler.received = List.replicate 1024 0 ++ [7] ∧ handler.sent = [] ∧
      handler.fifoOut.content = List.replicate 1024 0 ∧ handler.fifoIn.content = [] := by
  have start := working_construct ⟨3, false⟩
  have connected : (3 : Int) ≠ ServerSocket.INVALID_SOCKET := by decide
  have long : (List.replicate 1024 (0 : UInt8)).length = BUFFER_SIZE := List.length_replicate
  have nonempty : List.replicate 1024 (0 : UInt8) ≠ [] := List.cons_ne_nil _ _
  obtain ⟨out, held, full⟩ := full_of_first ⟨3, false⟩ long
  have fits : (construct ⟨3, false⟩ true).fifoIn.used +
      (List.replicate 1024 (0 : UInt8)).length ≤ (construct ⟨3, false⟩ true).fifoIn.size := by
    rw [start.input.size, long]
    exact Nat.le_of_eq (Nat.zero_add _)
  have working := start.echoed _ fits
  have room : ((construct ⟨3, false⟩ true).echoed (List.replicate 1024 0)).fifoIn.used +
      [(7 : UInt8)].length ≤
        ((construct ⟨3, false⟩ true).echoed (List.replicate 1024 0)).fifoIn.size := by
    have used := length_content working.input.sound
    rw [held] at used
    rw [working.input.size, ← used]
    decide
  have none := written_of_full working [7] full
  refine ⟨((construct ⟨3, false⟩ true).echoed (List.replicate 1024 0)).echoed [7],
    ?_, rfl, rfl, ?_, ?_⟩
  · rw [Runs.exec_cons, step_readable start connected rfl nonempty fits, Option.bind_some,
      Runs.exec_cons, step_readable working connected rfl (by simp) room, Option.bind_some]
    rfl
  · rw [content_out_echoed working, none, out, List.append_nil]
  · rw [content_in_echoed working room, none]
    rfl

end EchoServiceHandler

end TestReactor
