import TestReactor.SimpleEpoll

namespace TestReactor

/-! What the callbacks of a connection slot do, in closed form. -/

namespace SimpleEpoll

variable {size : Nat}

namespace Event

def Receives (event : Event size) : Prop :=
  event.callBack = some .handleRecv ∧ event.status = 1 ∧ event.events = Epoll.EPOLLIN

def Sends (event : Event size) : Prop :=
  event.callBack = some .handleSend ∧ event.status = 1 ∧ event.events = Epoll.EPOLLOUT

instance (event : Event size) : Decidable event.Receives :=
  inferInstanceAs (Decidable (_ ∧ _))

instance (event : Event size) : Decidable event.Sends :=
  inferInstanceAs (Decidable (_ ∧ _))

def registered (event : Event size) (ev : Nat) (fd : Int) (callBack : CallBack)
    (events : BitVec 32) : Event size :=
  { event with
    fd := fd
    callBack := some callBack
    events := events
    arg := some ev
    status := 1 }

theorem Receives.not_sends {event : Event size} (receives : event.Receives) : ¬ event.Sends := by
  intro sends
  have same := receives.1.symm.trans sends.1
  contradiction

end Event

namespace State

attribute [ext] State

/-- The slot `ev` is taken out of the interest list and put back as `event`. -/
def rearmed (state : State size) (ev : Nat) (event : Event size) : State size :=
  { state.put ev event with
    epoll := (state.epoll.ctl .del (state.events ev).fd ⟨0, ev⟩).ctl .add event.fd
      ⟨event.events, ev⟩ }

/-- The slot `ev` is taken out of the interest list and its descriptor closed. -/
def shut (state : State size) (ev : Nat) (event : Event size) : State size :=
  State.close
    { state.put ev event with
      epoll := state.epoll.ctl .del (state.events ev).fd ⟨0, ev⟩ }
    event.fd

/-- The free slot `ev` is put into the interest list as `event`. -/
def armed (state : State size) (ev : Nat) (event : Event size) : State size :=
  { state.put ev event with
    epoll := state.epoll.ctl .add event.fd ⟨event.events, ev⟩ }

section

variable {state : State size} {ev : Nat}

@[simp] theorem events_put_self (event : Event size) : (state.put ev event).events ev = event :=
  if_pos rfl

theorem events_put_of_ne {other : Nat} (different : other ≠ ev) (event : Event size) :
    (state.put ev event).events other = state.events other := if_neg different

@[simp] theorem put_put (first second : Event size) :
    (state.put ev first).put ev second = state.put ev second := by
  apply State.ext
  case events =>
    funext other
    by_cases same : other = ev <;> simp [put, same]
  all_goals rfl

@[simp] theorem put_of_epoll (epoll : Epoll Nat) (event : Event size) :
    State.put { state with epoll := epoll } ev event =
      { state.put ev event with epoll := epoll } := rfl

@[simp] theorem events_rearmed (event : Event size) :
    (state.rearmed ev event).events ev = event := events_put_self event

@[simp] theorem events_shut (event : Event size) :
    (state.shut ev event).events ev = event := events_put_self event

@[simp] theorem events_armed (event : Event size) :
    (state.armed ev event).events ev = event := events_put_self event

theorem eventDel_of_status (listed : (state.events ev).status = 1) :
    state.eventDel ev =
      { state.put ev { state.events ev with status := 0 } with
        epoll := state.epoll.ctl .del (state.events ev).fd ⟨0, ev⟩ } := by
  rw [eventDel, if_neg (not_not_intro listed)]
  rfl

theorem eventAdd_setEvent (fd : Int) (callBack : CallBack) (events : BitVec 32) :
    (state.setEvent ev fd callBack ev).eventAdd events ev =
      state.armed ev ((state.events ev).registered ev fd callBack events) := by
  simp [setEvent, eventAdd, setEpoll, armed, Event.registered]
  rfl

theorem armed_eventDel (listed : (state.events ev).status = 1) (event : Event size) :
    (state.eventDel ev).armed ev event = state.rearmed ev event := by
  rw [eventDel_of_status listed, armed, rearmed]
  simp

theorem armed_put (first second : Event size) :
    (state.put ev first).armed ev second = state.armed ev second := by
  rw [armed, armed, put_put]
  rfl

theorem rearmed_put {first : Event size} (same : first.fd = (state.events ev).fd)
    (second : Event size) :
    (state.put ev first).rearmed ev second = state.rearmed ev second := by
  rw [rearmed, rearmed, put_put, events_put_self, same]
  rfl

theorem shut_put {first : Event size} (same : first.fd = (state.events ev).fd)
    (second : Event size) :
    (state.put ev first).shut ev second = state.shut ev second := by
  rw [shut, shut, put_put, events_put_self, same]
  rfl

theorem close_eventDel (listed : (state.events ev).status = 1) :
    (state.eventDel ev).close ((state.eventDel ev).events ev).fd =
      state.shut ev { state.events ev with status := 0 } := by
  rw [eventDel_of_status listed, shut]
  simp

end

end State

namespace Event

variable {event : Event size} {chunk : List UInt8}

theorem take_received (fits : chunk.length ≤ size) :
    (event.received chunk fits).buf.take chunk.length = chunk := by
  simp [received, Cells.overwrite]

theorem store_terminator (fits : chunk.length ≤ size)
    (holds : event.buf.take chunk.length = chunk) :
    ∃ next, event.store chunk.length 0 = some next ∧
      next.buf.take chunk.length = chunk ∧
      next.len = if chunk.length < size then event.len else setByte event.len 0 0 := by
  by_cases inside : chunk.length < size
  · refine ⟨_, if_pos inside, ?_, (if_pos inside).symm⟩
    rw [List.take_set_of_le (Nat.le_refl _), holds]
  · have full : chunk.length = size := by omega
    have next : chunk.length < size + 4 := by omega
    refine ⟨_, (if_neg inside).trans (if_pos next), holds, ?_⟩
    rw [if_neg inside, full, Nat.sub_self]

structure Holds (event : Event size) (ev : Nat) (chunk : List UInt8) : Prop where
  sends : event.Sends
  arg : event.arg = some ev
  fits : chunk.length ≤ size
  buf : event.buf.take chunk.length = chunk
  len : event.len =
    if chunk.length < size then BitVec.ofNat 32 chunk.length
    else setByte (BitVec.ofNat 32 chunk.length) 0 0

/-- A full buffer of `BUFF_LEN` bytes is offered as no bytes at all. -/
theorem Holds.offered {event : Event BUFF_LEN} {ev : Nat} (holds : event.Holds ev chunk) :
    event.offered = if chunk.length < BUFF_LEN then chunk.length else 0 := by
  rw [Event.offered, holds.len]
  split
  case isTrue short =>
    have small : chunk.length % 4294967296 = chunk.length := by
      rw [BUFF_LEN] at short
      omega
    rw [BUFF_LEN] at short
    rw [BitVec.toInt_eq_toNat_of_lt] <;> simp [small] <;> omega
  case isFalse full =>
    have exactly : chunk.length = BUFF_LEN := Nat.le_antisymm holds.fits (Nat.not_lt.mp full)
    rw [exactly]
    decide

end Event

section

variable {state : State size} {ev : Nat}

theorem run_storeBuf {index : Nat} {byte : UInt8} {event : Event size}
    (stored : (state.events ev).store index byte = some event) :
    (storeBuf ev index byte).run state = .ok () (state.put ev event) := by
  simp only [storeBuf, EStateM.run_bind, EStateM.run_get, stored]
  rfl

theorem run_handleRecv (receives : (state.events ev).Receives) (fd : Int)
    (answer : Except Nat (List UInt8)) :
    (∃ chunk event,
        (handleRecv answer fd (some ev)).run state = .ok chunk (state.rearmed ev event) ∧
          event.Holds ev chunk ∧ event.fd = fd) ∨
      ∃ event, (handleRecv answer fd (some ev)).run state = .ok [] (state.shut ev event) ∧
        event.status = 0 ∧ event.fd = (state.events ev).fd := by
  have listed := receives.2.1
  cases answer with
  | error errno =>
      refine .inr ⟨{ state.events ev with status := 0 }, ?_, rfl, rfl⟩
      rw [← State.close_eventDel listed]
      rfl
  | ok data =>
      have fits : (data.take size).length ≤ size := List.length_take_le _ _
      let event := (state.events ev).received (data.take size) fits
      let filled := state.put ev event
      have filled_ev : filled.events ev = event := State.events_put_self event
      have same : event.fd = (state.events ev).fd := rfl
      have waits : (filled.events ev).status = 1 := by
        rw [filled_ev]
        exact listed
      by_cases empty : data.take size = []
      · refine .inr ⟨{ event with status := 0 }, ?_, rfl, rfl⟩
        have shuts := State.close_eventDel waits
        rw [filled_ev, State.shut_put same] at shuts
        rw [← shuts]
        simp [handleRecv, Registrar.handleRecv, deref, empty, filled, event]
      · have positive : 0 < (data.take size).length := List.length_pos_iff.mpr empty
        let measured := (filled.eventDel ev).put ev
          { (filled.eventDel ev).events ev with
            len := BitVec.ofNat 32 (data.take size).length }
        have freed : (filled.eventDel ev).events ev = { event with status := 0 } := by
          rw [State.eventDel_of_status waits, ← filled_ev]
          exact State.events_put_self _
        have holds : (measured.events ev).buf.take (data.take size).length =
            data.take size := by
          rw [State.events_put_self, freed]
          exact Event.take_received fits
        obtain ⟨stored, stores, kept, len⟩ := Event.store_terminator fits holds
        have terminated := run_storeBuf stores
        simp only [measured, filled, event] at terminated
        let last := stored.registered ev fd .handleSend Epoll.EPOLLOUT
        have final : ((measured.put ev stored).setEvent ev fd .handleSend ev).eventAdd
            Epoll.EPOLLOUT ev = state.rearmed ev last := by
          rw [State.eventAdd_setEvent, State.events_put_self, State.armed_put,
            State.armed_put, State.armed_eventDel waits, State.rearmed_put same]
        refine .inl ⟨data.take size, last, ?_, ⟨⟨rfl, rfl, rfl⟩, rfl, fits, kept, ?_⟩, rfl⟩
        · rw [← final]
          simp only [handleRecv, Registrar.handleRecv, onTable_registrar, eventAdd_registrar,
            eventDel_registrar, deref, EStateM.run_bind, EStateM.run_pure,
            EStateM.run_modify, gt_iff_lt, if_pos positive, terminated]
          rfl
        · rw [show last.len = stored.len from rfl, len, State.events_put_self]

theorem run_handleSend {chunk : List UInt8} (holds : (state.events ev).Holds ev chunk)
    (within : (state.events ev).offered ≤ chunk.length) (fd : Int)
    (answer : Except Nat Nat) :
    (∃ count event, answer = .ok count ∧ min count (state.events ev).offered ≠ 0 ∧
        (handleSend answer fd (some ev)).run state =
          .ok (chunk.take (min count (state.events ev).offered)) (state.rearmed ev event) ∧
        event.Receives ∧ event.arg = some ev ∧ event.fd = fd) ∨
      (∀ count, answer = .ok count → min count (state.events ev).offered = 0) ∧
        ∃ event, (handleSend answer fd (some ev)).run state = .ok [] (state.shut ev event) ∧
          event.status = 0 ∧ event.fd = (state.events ev).fd := by
  have listed := holds.sends.2.1
  cases answer with
  | error errno =>
      refine .inr ⟨by simp, { state.events ev with status := 0 }, ?_, rfl, rfl⟩
      rw [← State.close_eventDel listed]
      rfl
  | ok count =>
      have inside : min count (state.events ev).offered ≤ size := by
        have fits := holds.fits
        omega
      have front : (state.events ev).buf.take (min count (state.events ev).offered) =
          chunk.take (min count (state.events ev).offered) := by
        have shorter : min count (state.events ev).offered ≤ chunk.length := by omega
        have same := congrArg (List.take (min count (state.events ev).offered)) holds.buf
        rwa [List.take_take, Nat.min_eq_left shorter] at same
      have taken : (send (state.events ev) (.ok count)).run state =
          .ok (((min count (state.events ev).offered : Nat) : Int),
            chunk.take (min count (state.events ev).offered)) state := by
        simp only [send, if_pos inside, front, EStateM.run_pure]
      have ran : (handleSend (.ok count) fd (some ev)).run state =
          .ok (chunk.take (min count (state.events ev).offered))
            (if ((min count (state.events ev).offered : Nat) : Int) > 0 then
              ((state.eventDel ev).setEvent ev fd .handleRecv ev).eventAdd Epoll.EPOLLIN ev
            else (state.eventDel ev).close ((state.eventDel ev).events ev).fd) := by
        simp only [handleSend, Registrar.handleSend, onTable_registrar, eventAdd_registrar,
          eventDel_registrar, deref, EStateM.run_bind, EStateM.run_pure, EStateM.run_get,
          taken, EStateM.run_modify, Exec.run_ite]
        split <;> rfl
      by_cases nothing : min count (state.events ev).offered = 0
      · refine .inr ⟨by simpa using nothing, { state.events ev with status := 0 }, ?_, rfl, rfl⟩
        rw [ran, nothing, if_neg (by decide), State.close_eventDel listed]
        rfl
      · let next := ((state.eventDel ev).events ev).registered ev fd .handleRecv Epoll.EPOLLIN
        refine .inl ⟨count, next, rfl, nothing, ?_, ⟨rfl, rfl, rfl⟩, rfl, rfl⟩
        rw [ran, if_pos (by omega), State.eventAdd_setEvent, State.armed_eventDel listed]

end

end SimpleEpoll

end TestReactor
