import Mathlib.Algebra.Group.Nat.Defs
import TestReactor.SimpleEpoll.Spec

namespace TestReactor

/-! What the terminator that `handle_recv` writes behind a chunk does to the slot. -/

namespace SimpleEpoll

variable {size : Nat}

namespace Event

theorem toNat_setByte_zero (word : BitVec 32) :
    (setByte word 0 0).toNat = word.toNat / 256 * 256 := by
  have mask : ∀ i < 32, (4294967040#32).getLsbD i = decide (8 ≤ i) := by decide
  have cleared : setByte word 0 0 = (word >>> 8) <<< 8 := by
    apply BitVec.eq_of_getLsbD_eq
    intro i within
    have kept := mask i within
    by_cases low : i < 8
    · simp [setByte, kept, low]
    · have same : 8 + (i - 8) = i := by omega
      rw [decide_eq_true (by omega : 8 ≤ i)] at kept
      simp [setByte, low, same, within, kept]
  have below := word.isLt
  rw [cleared, BitVec.toNat_shiftLeft, BitVec.toNat_ushiftRight, Nat.shiftRight_eq_div_pow,
    Nat.shiftLeft_eq, Nat.mod_eq_of_lt]
  omega

/-- The slot is ready to send `chunk`, whatever part of it the kernel takes. -/
structure Offers (event : Event size) (chunk : List UInt8) : Prop where
  buf : event.buf.take chunk.length = chunk
  len : event.len.toInt = chunk.length
  send : ∀ count (state : State size),
    (send event (.ok count)).run state =
      .ok (((min count chunk.length : Nat) : Int), chunk.take (min count chunk.length)) state

theorem offers_iff {event : Event size} {chunk : List UInt8} (fits : chunk.length ≤ size)
    (buf : event.buf.take chunk.length = chunk) :
    event.Offers chunk ↔ event.len.toInt = chunk.length := by
  constructor
  · exact Offers.len
  · intro len
    have small := BitVec.toInt_lt (x := event.len)
    have offered : event.offered = chunk.length := by
      rw [Event.offered, len]
      omega
    refine ⟨buf, len, fun count state => ?_⟩
    have inside : min count chunk.length ≤ size := by omega
    have front : event.buf.take (min count chunk.length) = chunk.take (min count chunk.length) := by
      have same := congrArg (List.take (min count chunk.length)) buf
      rwa [List.take_take, Nat.min_eq_left (by omega)] at same
    simp only [SimpleEpoll.send, offered, if_pos inside, front, EStateM.run_pure]

theorem toInt_len_iff {length : Nat} (fits : length ≤ size) :
    (if length < size then BitVec.ofNat 32 length
      else setByte (BitVec.ofNat 32 length) 0 0).toInt = length ↔
      length < 2 ^ 31 ∧ (length < size ∨ size % 256 = 0) := by
  split
  · rename_i short
    rw [BitVec.toInt_eq_toNat_cond, BitVec.toNat_ofNat]
    split <;> omega
  · rename_i full
    rw [BitVec.toInt_eq_toNat_cond, toNat_setByte_zero, BitVec.toNat_ofNat]
    split <;> omega

end Event

namespace State

variable {state : State size} {ev : Nat}

theorem events_eventDel (state : State size) (ev other : Nat) :
    (state.eventDel ev).events other =
      if other = ev ∧ (state.events ev).status = 1 then { state.events ev with status := 0 }
      else state.events other := by
  unfold eventDel
  by_cases listed : (state.events ev).status = 1
  · by_cases same : other = ev <;> simp [setEpoll, put, listed, same]
  · simp [listed]

theorem events_eventDel_of_ne {other : Nat} (different : other ≠ ev) :
    (state.eventDel ev).events other = state.events other := by
  rw [events_eventDel, if_neg (by simp [different])]

end State

structure Intact (state : State size) (fd : Int) (ev : Nat) (chunk : List UInt8)
    (next : State size) : Prop where
  ran : (handleRecv (.ok chunk) fd (some ev)).run state = .ok chunk next
  others : ∀ other, other ≠ ev → next.events other = state.events other
  sends : (next.events ev).Sends
  offers : (next.events ev).Offers chunk

theorem run_handleRecv_chunk (state : State size) (fd : Int) (ev : Nat) {chunk : List UInt8}
    (nonempty : 0 < chunk.length) (fits : chunk.length ≤ size) :
    ∃ next, (handleRecv (.ok chunk) fd (some ev)).run state = .ok chunk next ∧
      (∀ other, other ≠ ev → next.events other = state.events other) ∧
      (next.events ev).Sends ∧ (next.events ev).buf.take chunk.length = chunk ∧
      (next.events ev).len =
        if chunk.length < size then BitVec.ofNat 32 chunk.length
        else Event.setByte (BitVec.ofNat 32 chunk.length) 0 0 := by
  have whole : chunk.take size = chunk := List.take_of_length_le fits
  let filled := (state.put ev ((state.events ev).received chunk fits)).eventDel ev
  let measured := filled.put ev
    { filled.events ev with len := BitVec.ofNat 32 chunk.length }
  have held : (measured.events ev).buf.take chunk.length = chunk := by
    have taken : ((state.events ev).received chunk fits).buf.take chunk.length = chunk :=
      Event.take_received fits
    simp only [measured, filled, State.events_put_self, State.events_eventDel]
    split
    · exact taken
    · exact taken
  obtain ⟨stored, stores, kept, len⟩ := Event.store_terminator fits held
  have terminated := run_storeBuf stores
  simp only [measured, filled] at terminated
  have final : ((measured.put ev stored).setEvent ev fd .handleSend ev).eventAdd Epoll.EPOLLOUT ev =
      measured.armed ev (stored.registered ev fd .handleSend Epoll.EPOLLOUT) := by
    rw [State.eventAdd_setEvent, State.events_put_self, State.armed_put]
  refine ⟨measured.armed ev (stored.registered ev fd .handleSend Epoll.EPOLLOUT), ?_, ?_, ?_, ?_,
    ?_⟩
  · rw [← final]
    simp only [handleRecv, Registrar.handleRecv, onTable_registrar, eventAdd_registrar,
      eventDel_registrar, deref, EStateM.run_bind, EStateM.run_pure, EStateM.run_modify, gt_iff_lt,
      whole, if_pos nonempty, terminated]
    rfl
  · intro other different
    rw [State.armed]
    simp only [measured, filled, State.events_put_of_ne different,
      State.events_eventDel_of_ne different]
  · rw [State.events_armed]
    exact ⟨rfl, rfl, rfl⟩
  · rw [State.events_armed]
    exact kept
  · rw [State.events_armed]
    exact len.trans (by rw [State.events_put_self])

/-- The terminator spares the length exactly when it falls into the buffer, or on a byte of the
length that is zero anyway. -/
theorem intact_iff (state : State size) (fd : Int) (ev : Nat) {chunk : List UInt8}
    (nonempty : 0 < chunk.length) (fits : chunk.length ≤ size) :
    (∃ next, Intact state fd ev chunk next) ↔
      chunk.length < 2 ^ 31 ∧ (chunk.length < size ∨ size % 256 = 0) := by
  obtain ⟨next, ran, others, sends, buf, len⟩ := run_handleRecv_chunk state fd ev nonempty fits
  rw [← Event.toInt_len_iff fits, ← len, ← Event.offers_iff fits buf]
  constructor
  · rintro ⟨last, intact⟩
    cases ran.symm.trans intact.ran
    exact intact.offers
  · intro offers
    exact ⟨next, ran, others, sends, offers⟩

/-- A byte in a buffer of two. -/
theorem intact_iff_one_byte :
    (∃ next, Intact (⟨fun _ => .zero 2, .empty, .empty Epoll.strict, []⟩ : State 2) 5 0 [7] next) ↔
      [(7 : UInt8)].length < 2 ^ 31 ∧ ([(7 : UInt8)].length < 2 ∨ 2 % 256 = 0) :=
  intact_iff _ 5 0 (by decide) (by decide)

/-- Behind a chunk that fills the buffer of 128 bytes no length is left. -/
theorem full_chunk_is_lost :
    let server : State BUFF_LEN := ⟨fun _ => .zero _, .empty, .empty Epoll.strict, []⟩
    let chunk := List.replicate BUFF_LEN (1 : UInt8)
    (∃ next, (handleRecv (.ok chunk) 5 (some 0)).run server = .ok chunk next ∧
      (next.events 0).len = 0) ∧
    ¬ ∃ next, Intact server 5 0 chunk next := by
  intro server chunk
  have length : chunk.length = 128 := List.length_replicate
  have full : chunk.length ≤ BUFF_LEN := Nat.le_of_eq length
  obtain ⟨last, ran, -, -, -, len⟩ := run_handleRecv_chunk server 5 0 (by omega) full
  have none_left : (last.events 0).len = 0 := by
    rw [len, length]
    decide
  refine ⟨⟨last, ran, none_left⟩, ?_⟩
  rintro ⟨next, intact⟩
  have same := (EStateM.Result.ok.inj (ran.symm.trans intact.ran)).2
  have whole := intact.offers.len
  rw [← same, none_left, length] at whole
  exact absurd whole (by decide)

end SimpleEpoll

end TestReactor
