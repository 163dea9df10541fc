import TestReactor.EchoServiceHandler.Conservation
import TestReactor.EchoServiceHandler.FlowControl

namespace TestReactor

/-! Bytes that a handler holds and that nothing will send. -/

namespace EchoServiceHandler

namespace Attached

variable {attached next : Attached}

/-- As long as a byte is held, the handler waits for its socket to take output, and has
some. -/
def Unstranded (attached : Attached) : Prop :=
  attached.handler.fifoIn.content ≠ [] ∨ attached.handler.fifoOut.content ≠ [] →
    attached.Has .writable ∧ attached.handler.fifoOut.isEmpty = false

/-- A `send` that takes all of `_fifoOut` does so when `_fifoIn` holds nothing: nobody
moves what is left there. -/
def LeavesNothing (attached : Attached) : Event → Prop
  | .callback (.writable answers) =>
      attached.handler.socket.settle answers = some (.ok attached.handler.fifoOut.used) →
        attached.handler.fifoIn.content = []
  | .callback (.readable _) => True
  | .elsewhere _ => True

theorem content_eq_nil_iff {fifo : BasicFIFOBuffer.State UInt8}
    (sound : BasicFIFOBuffer.Sound fifo) : fifo.content = [] ↔ fifo.isEmpty = true := by
  have used := BasicFIFOBuffer.length_content sound
  rw [BasicFIFOBuffer.State.isEmpty, decide_eq_true_iff, ← used, eq_comm (a := 0),
    List.length_eq_zero_iff]

/-- What has arrived is on its way out as long as `_fifoOut` holds something. -/
theorem Steady.unstranded_iff (steady : attached.Steady) :
    attached.Unstranded ↔
      (attached.handler.fifoOut.isEmpty = true → attached.handler.fifoIn.content = []) := by
  have output := content_eq_nil_iff steady.live.working.output.sound
  have controlled := steady.controlled.writable
  constructor
  · intro unstranded empty
    by_contra held
    have some := (unstranded (.inl held)).2
    rw [empty] at some
    contradiction
  · intro passes held
    have some : attached.handler.fifoOut.isEmpty = false := by
      rw [← Bool.not_eq_true]
      intro empty
      rcases held with input | out
      · exact input (passes empty)
      · exact out (output.mpr empty)
    exact ⟨controlled.mpr some, some⟩

theorem some_out_echoed {handler : State} {data : List UInt8} (working : Working handler)
    (nonempty : data ≠ []) : (handler.echoed data).fifoOut.content ≠ [] := by
  rw [content_out_echoed working]
  cases full : handler.fifoOut.isFull with
  | true =>
      have used := of_decide_eq_true full
      have size := working.output.size
      have length := BasicFIFOBuffer.length_content working.output.sound
      have held : handler.fifoOut.content ≠ [] := by
        rw [← List.length_pos_iff, length, ← used, size]
        decide
      exact List.append_ne_nil_of_left_ne_nil held _
  | false =>
      have some := (written_of_room working nonempty full).1
      exact List.append_ne_nil_of_right_ne_nil _ (List.length_pos_iff.mp some)

theorem isEmpty_flushed {handler : State} {count : Nat} (working : Working handler)
    (positive : 0 < count) (enough : count ≤ handler.fifoOut.used) :
    (handler.flushed count).fifoOut.isEmpty = true ↔ count = handler.fifoOut.used := by
  have length := BasicFIFOBuffer.length_content working.output.sound
  rw [← content_eq_nil_iff (working.flushed count).output.sound,
    content_out_flushed working positive, List.drop_eq_nil_iff, length]
  exact ⟨fun all => by omega, fun all => by omega⟩

theorem Steady.unstranded_next (steady : attached.Steady) {event : Event}
    (unstranded : attached.Unstranded) (stepped : attached.step event = some next)
    (leaves : attached.LeavesNothing event) : next.Unstranded := by
  have kept := steady.next stepped
  rw [kept.unstranded_iff]
  rw [steady.unstranded_iff] at unstranded
  cases event with
  | elsewhere call =>
      rw [(steady.elsewhere stepped).2]
      exact unstranded
  | callback callback =>
      have moved := (steady.callback stepped).2
      cases callback with
      | readable answers =>
          intro empty
          rw [← content_eq_nil_iff kept.live.working.output.sound] at empty
          have moves := moves_of_step steady.live.working moved
          generalize next.handler = handler at moves empty
          cases moves with
          | echoed data nonempty room =>
              exact absurd empty (some_out_echoed steady.live.working nonempty)
      | writable answers =>
          obtain ⟨count, settled, positive, enough, same⟩ :=
            flushed_of_step steady.live.working moved
          rw [same, isEmpty_flushed steady.live.working positive enough]
          rintro rfl
          exact leaves settled

theorem Steady.leavesNothing (steady : attached.Steady) {event : Event}
    (stepped : attached.step event = some next) (unstranded : next.Unstranded) :
    attached.LeavesNothing event := by
  rw [(steady.next stepped).unstranded_iff] at unstranded
  cases event with
  | elsewhere call => trivial
  | callback callback =>
      cases callback with
      | readable answers => trivial
      | writable answers =>
          intro settled
          obtain ⟨count, settled', positive, enough, same⟩ :=
            flushed_of_step steady.live.working (steady.callback stepped).2
          cases settled.symm.trans settled'
          rw [same, isEmpty_flushed steady.live.working positive enough] at unstranded
          exact unstranded rfl

/-- No byte is stranded throughout exactly the runs in which every `send` that empties
`_fifoOut` comes when `_fifoIn` is empty. -/
theorem unstranded_iff_leaves_nothing (object address : Nat) (socket : ServerSocket)
    (reactor : SocketReactor) (ready : reactor.Ready none)
    (fresh : ∀ observer ∈ reactor.registered socket.sockfd, observer.object ≠ some object)
    (events : List Event) :
    ∀ attached, construct object address socket reactor = some attached →
      attached.Unstranded ∧
      (Runs.Always step Unstranded attached events ↔
        Runs.Each step LeavesNothing attached events) := by
  intro attached constructed
  obtain ⟨steady, new⟩ := steady_of_construct ready fresh constructed
  have empty : attached.Unstranded := by
    rw [steady.unstranded_iff, new]
    exact fun _ => BasicFIFOBuffer.content_nil rfl
  refine ⟨empty, ?_⟩
  exact Runs.always_iff_each (fun attached : Attached => attached.Steady ∧ attached.Unstranded)
    (fun _ _ _ holds stepped leaves =>
      ⟨holds.1.next stepped, holds.1.unstranded_next holds.2 stepped leaves⟩)
    (fun _ holds => holds.2)
    (fun _ _ _ holds stepped unstranded => holds.1.leavesNothing stepped unstranded)
    ⟨steady, empty⟩

theorem unstranded_iff_leaves_nothing_one_byte :
    let reactor := SocketReactor.empty true (fun _ => true) Epoll.obliging
    ∃ attached, construct 0 100 ⟨3, false⟩ reactor = some attached ∧ attached.Unstranded ∧
      (Runs.Always step Unstranded attached [.callback (.readable [.ok [7]])] ↔
        Runs.Each step LeavesNothing attached [.callback (.readable [.ok [7]])]) := by
  have ready := SocketReactor.ready_empty (fun _ => true) Epoll.obliging
  obtain ⟨attached, constructed, _⟩ :=
    construct_of_willing 0 100 ⟨3, false⟩ ready Epoll.willing_obliging
  exact ⟨attached, constructed, unstranded_iff_leaves_nothing 0 100 ⟨3, false⟩ _ ready
    (by simp [SocketReactor.registered, SocketReactor.empty])
    [.callback (.readable [.ok [7]])] attached constructed⟩

theorem Steady.moved {handler : State} {callback : Callback} (steady : attached.Steady)
    (permitted : attached.Permitted)
    (moved : EchoServiceHandler.step attached.handler callback = some handler) :
    ∃ next, attached.step (.callback callback) = some next ∧ next.Steady ∧
      next.Permitted ∧ next.handler = handler := by
  obtain ⟨next, stepped, kept⟩ := steady.of_admits permitted (admits_of_step moved)
  obtain ⟨still, same⟩ := steady.callback stepped
  exact ⟨next, stepped, still, kept, Option.some.inj (same.symm.trans moved)⟩

theorem contents_echoed {handler : State} (held count : Nat) (working : Working handler)
    (input : handler.fifoIn.content = [])
    (output : handler.fifoOut.content = List.replicate held 0) (positive : 0 < count)
    (room : held < BUFFER_SIZE) (within : count ≤ BUFFER_SIZE) :
    handler.fifoIn.used + (List.replicate count (0 : UInt8)).length ≤ handler.fifoIn.size ∧
      (handler.echoed (List.replicate count 0)).fifoIn.content =
        List.replicate (count - (BUFFER_SIZE - held)) 0 ∧
      (handler.echoed (List.replicate count 0)).fifoOut.content =
        List.replicate (held + min (BUFFER_SIZE - held) count) 0 := by
  have used : handler.fifoIn.used = 0 := by
    rw [← BasicFIFOBuffer.length_content working.input.sound, input, List.length_nil]
  have fits : handler.fifoIn.used + (List.replicate count (0 : UInt8)).length ≤
      handler.fifoIn.size := by
    rw [used, working.input.size, List.length_replicate]
    omega
  have written : handler.written (List.replicate count 0) =
      List.replicate (min (BUFFER_SIZE - held) count) 0 := by
    rw [written_eq working, input, output, List.nil_append, List.length_replicate,
      List.take_replicate]
  refine ⟨fits, ?_, ?_⟩
  · rw [content_in_echoed working fits, written, input, List.nil_append, List.length_replicate,
      if_neg (by omega), List.drop_replicate]
    congr 1
    omega
  · rw [content_out_echoed working, written, output, List.replicate_append_replicate]

theorem Steady.takes_in (steady : attached.Steady)
    (permitted : attached.Permitted) (held count : Nat)
    (connected : attached.handler.socket.sockfd ≠ ServerSocket.INVALID_SOCKET)
    (input : attached.handler.fifoIn.content = [])
    (output : attached.handler.fifoOut.content = List.replicate held 0) (positive : 0 < count)
    (room : held < BUFFER_SIZE) (within : count ≤ BUFFER_SIZE) :
    ∃ next, attached.step (.callback (.readable [.ok (List.replicate count 0)])) = some next ∧
      next.Steady ∧ next.Permitted ∧
      next.handler.socket.sockfd ≠ ServerSocket.INVALID_SOCKET ∧
      next.handler.fifoIn.content = List.replicate (count - (BUFFER_SIZE - held)) 0 ∧
      next.handler.fifoOut.content =
        List.replicate (held + min (BUFFER_SIZE - held) count) 0 := by
  obtain ⟨fits, contents⟩ := contents_echoed held count steady.live.working input output positive
    room within
  have nonempty : List.replicate count (0 : UInt8) ≠ [] := by
    rw [← List.length_pos_iff, List.length_replicate]
    exact positive
  have settled : attached.handler.socket.settle [.ok (List.replicate count (0 : UInt8))] =
      some (.ok (List.replicate count 0)) := rfl
  obtain ⟨next, stepped, still, kept, same⟩ := steady.moved permitted
    (step_readable steady.live.working connected settled nonempty fits)
  refine ⟨next, stepped, still, kept, ?_⟩
  rw [same]
  exact ⟨connected, contents⟩

/-- 1100 bytes come in, of which `_fifoOut` takes 1024: the 76 others stay in `_fifoIn`
when these have been sent. -/
theorem byte_behind_full_output_is_stranded :
    ∃ attached later,
      construct 0 100 ⟨3, false⟩ (SocketReactor.empty true (fun _ => true) Epoll.obliging) =
        some attached ∧
      Runs.exec step attached [.callback (.readable [.ok (List.replicate 1000 0)]),
        .callback (.readable [.ok (List.replicate 100 0)]),
        .callback (.writable [.ok 1024])] = some later ∧
      later.handler.fifoIn.content = List.replicate 76 0 ∧
      later.handler.fifoOut.content = [] ∧ ¬ later.Has .writable := by
  have ready := SocketReactor.ready_empty (fun _ => true) Epoll.obliging
  obtain ⟨attached, constructed, permitted⟩ :=
    construct_of_willing 0 100 ⟨3, false⟩ ready Epoll.willing_obliging
  obtain ⟨steady, new⟩ := steady_of_construct ready
    (by simp [SocketReactor.registered, SocketReactor.empty]) constructed
  obtain ⟨first, stepped₁, steady₁, permitted₁, connected₁, input₁, output₁⟩ :=
    steady.takes_in permitted 0 1000 (by rw [new]; decide)
      (by rw [new]; exact BasicFIFOBuffer.content_nil rfl)
      (by rw [new]; exact BasicFIFOBuffer.content_nil rfl) (by decide) (by decide) (by decide)
  obtain ⟨second, stepped₂, steady₂, permitted₂, connected₂, input₂, output₂⟩ :=
    steady₁.takes_in permitted₁ 1000 100 connected₁ input₁ output₁ (by decide) (by decide)
      (by decide)
  have used : second.handler.fifoOut.used = 1024 := by
    rw [← BasicFIFOBuffer.length_content steady₂.live.working.output.sound, output₂,
      List.length_replicate]
    rfl
  have settled : second.handler.socket.settle [.ok 1024] = some (.ok 1024) := rfl
  have moved := step_writable steady₂.live.working connected₂ settled (by decide)
    (Nat.le_of_eq used.symm)
  obtain ⟨third, stepped₃, steady₃, _, same⟩ := steady₂.moved permitted₂ moved
  have sent : third.handler.fifoOut.isEmpty = true := by
    rw [same]
    exact (isEmpty_flushed steady₂.live.working (by decide) (Nat.le_of_eq used.symm)).mpr used.symm
  refine ⟨attached, third, constructed, ?_, ?_, ?_, ?_⟩
  · simp only [Runs.exec_cons, Runs.exec_nil, stepped₁, stepped₂, stepped₃, Option.bind_some]
  · rw [same]
    exact input₂
  · exact (content_eq_nil_iff steady₃.live.working.output.sound).mpr sent
  · rw [steady₃.controlled.writable, sent]
    exact Bool.false_ne_true.symm

end Attached

end EchoServiceHandler

end TestReactor
