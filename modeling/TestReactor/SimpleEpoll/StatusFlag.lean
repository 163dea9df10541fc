import TestReactor.Runs
import TestReactor.SimpleEpoll.Server
import TestReactor.SimpleEpoll.Spec
import TestReactor.Tracks

namespace TestReactor

/-! What the status flag of a slot says of epoll, where the kernel may refuse any call. -/

namespace SimpleEpoll

variable {size : Nat}

/-- Epoll holds the slot's descriptor with the slot as its data pointer. -/
def Monitored (table : State size) (ev : Nat) : Prop :=
  (table.epoll.interest (table.events ev).fd).map Epoll.Event.data = some ev

def Truthful (table : State size) (ev : Nat) : Prop :=
  (table.events ev).status = 1 ↔ Monitored table ev

instance (table : State size) (ev : Nat) : Decidable (Monitored table ev) :=
  inferInstanceAs (Decidable (_ = _))

instance (table : State size) (ev : Nat) : Decidable (Truthful table ev) :=
  inferInstanceAs (Decidable (_ ↔ _))

inductive Registering where
  | add (events : BitVec 32)
  | del

structure Registration (size : Nat) where
  call : Registering
  ev : Nat
  before : State size

namespace Registration

def after (registration : Registration size) : State size :=
  match registration.call with
  | .add events => registration.before.eventAdd events registration.ev
  | .del => registration.before.eventDel registration.ev

def TellsTruth (registration : Registration size) : Prop :=
  Truthful registration.after registration.ev

instance (registration : Registration size) : Decidable registration.TellsTruth :=
  inferInstanceAs (Decidable (Truthful _ _))

def op (registration : Registration size) : CtlOp :=
  match registration.call with
  | .add _ =>
      if (registration.before.events registration.ev).status = 1 then .mod else .add
  | .del => .del

def Taken (registration : Registration size) : Prop :=
  registration.before.epoll.refused registration.op
    (registration.before.events registration.ev).fd = none

/-- A call that epoll takes, or that asks for what is so already. -/
def Heeded (registration : Registration size) : Prop :=
  match registration.call with
  | .add _ => registration.Taken ∨ Monitored registration.before registration.ev
  | .del =>
      (registration.before.events registration.ev).status = 1 ∧ registration.Taken ∨
        ¬ Monitored registration.before registration.ev

end Registration

end SimpleEpoll

namespace Epoll

variable {epoll : Epoll Data} {op : CtlOp} {fd : Int}

theorem interest_ctl_of_refused (refused : epoll.refused op fd ≠ none) (event : Event Data) :
    (epoll.ctl op fd event).interest = epoll.interest := by
  obtain ⟨errno, failed⟩ := Option.ne_none_iff_exists'.mp refused
  cases op <;> simp [ctl, failed]

theorem interest_ctl_of_entered (taken : epoll.refused op fd = none) (enters : op ≠ .del)
    (event : Event Data) : (epoll.ctl op fd event).interest fd = some event := by
  cases op with
  | add | mod => simp [ctl, taken, set]
  | del => exact absurd rfl enters

theorem interest_ctl_of_deleted (taken : epoll.refused .del fd = none) (event : Event Data) :
    (epoll.ctl .del fd event).interest fd = none := by
  simp [ctl, taken, set]

end Epoll

namespace SimpleEpoll

section

variable {state : State size} {ev : Nat}

theorem truthful_eventAdd (events : BitVec 32) :
    Truthful (state.eventAdd events ev) ev ↔
      state.epoll.refused (if (state.events ev).status = 1 then .mod else .add)
        (state.events ev).fd = none ∨ Monitored state ev := by
  have slot : (state.eventAdd events ev).events ev =
      { state.events ev with status := 1, events := events } := State.events_put_self _
  have up : Truthful (state.eventAdd events ev) ev ↔ Monitored (state.eventAdd events ev) ev := by
    rw [Truthful, slot]
    exact iff_true_left rfl
  rw [up, Monitored, slot]
  by_cases taken : state.epoll.refused (if (state.events ev).status = 1 then .mod else .add)
      (state.events ev).fd = none
  · have entered := Epoll.interest_ctl_of_entered taken (by split <;> decide) ⟨events, ev⟩
    exact iff_of_true (congrArg (Option.map Epoll.Event.data) entered) (.inl taken)
  · rw [or_iff_right taken, Monitored,
      ← Epoll.interest_ctl_of_refused taken ⟨events, ev⟩]
    exact Iff.rfl

theorem truthful_eventDel :
    Truthful (state.eventDel ev) ev ↔
      (state.events ev).status = 1 ∧ state.epoll.refused .del (state.events ev).fd = none ∨
        ¬ Monitored state ev := by
  by_cases listed : (state.events ev).status = 1
  · have deleted := State.eventDel_of_status listed
    have slot : (state.eventDel ev).events ev = { state.events ev with status := 0 } := by
      rw [deleted]
      exact State.events_put_self _
    have down : Truthful (state.eventDel ev) ev ↔ ¬ Monitored (state.eventDel ev) ev := by
      rw [Truthful, slot]
      exact iff_false_left (by decide : ¬ (0 : Int) = 1)
    rw [down, Monitored, slot, deleted]
    by_cases taken : state.epoll.refused .del (state.events ev).fd = none
    · have removed := Epoll.interest_ctl_of_deleted taken ⟨0, ev⟩
      refine iff_of_true (fun monitored => ?_) (.inl ⟨listed, taken⟩)
      have none_left := monitored.symm.trans (congrArg (Option.map Epoll.Event.data) removed)
      contradiction
    · rw [or_iff_right (fun both => taken both.2), Monitored,
        ← Epoll.interest_ctl_of_refused taken ⟨0, ev⟩]
  · have same : state.eventDel ev = state := by rw [State.eventDel, if_pos listed]
    rw [same, Truthful]
    simp [listed]

end

/-- The flag tells the truth after a call exactly when epoll heeds the call. -/
theorem Registration.tellsTruth_iff (registration : Registration size) :
    registration.TellsTruth ↔ registration.Heeded := by
  obtain ⟨call, ev, before⟩ := registration
  cases call with
  | add events => exact truthful_eventAdd events
  | del => exact truthful_eventDel

/-- The table with every call of `event_add` and `event_del`, oldest first. -/
structure Watched (size : Nat) where
  table : State size
  registrations : List (Registration size)

namespace Watched

abbrev Method (size : Nat) (α : Type) := Exec (Watched size) α

def tableField : Field (Watched size) (State size) where
  get := table
  set table watched := { watched with table := table }
  get_set _ _ := rfl
  set_get _ := rfl
  set_set _ _ _ := rfl

/-- The registration, noted and carried out. -/
def register (call : Registering) (ev : Nat) : Method size Unit :=
  modify fun watched =>
    let registration : Registration size := ⟨call, ev, watched.table⟩
    ⟨registration.after, watched.registrations ++ [registration]⟩

def registrar : Registrar (Watched size) size where
  table := tableField
  eventAdd events := register (.add events)
  eventDel := register .del

end Watched

namespace Registrar

open Exec (Tracks)

variable {σ : Type} {registrar : Registrar σ size}

/-- The two functions do with the table what they do in the server itself. -/
structure Faithful (registrar : Registrar σ size) : Prop where
  add : ∀ events ev, Tracks registrar.table.get (registrar.eventAdd events ev)
    (modify fun state => state.eventAdd events ev)
  del : ∀ ev, Tracks registrar.table.get (registrar.eventDel ev)
    (modify fun state => state.eventDel ev)

theorem tracks_onTable (registrar : Registrar σ size) (body : Method size α) :
    Tracks registrar.table.get (registrar.onTable body) (SimpleEpoll.registrar.onTable body) := by
  rw [onTable_registrar]
  exact Exec.tracks_on registrar.table body

namespace Faithful

theorem handleAccept (faithful : registrar.Faithful) (answers : Answers) :
    Tracks registrar.table.get (registrar.handleAccept answers)
      (SimpleEpoll.handleAccept answers) := by
  unfold SimpleEpoll.handleAccept Registrar.handleAccept
  cases answers.accept with
  | error errno => exact Exec.tracks_pure ()
  | ok cfd =>
      refine (tracks_onTable _ (grant cfd)).bind fun _ =>
        (tracks_onTable _ get).bind fun table => ?_
      cases freeSlot table with
      | none => exact Exec.tracks_pure ()
      | some i =>
          exact ((tracks_onTable _ _).bind fun _ => faithful.add Epoll.EPOLLIN i).when _

theorem handleRecv (faithful : registrar.Faithful) (answer : Except Nat (List UInt8)) (fd : Int)
    (arg : Option Nat) :
    Tracks registrar.table.get (registrar.handleRecv answer fd arg)
      (SimpleEpoll.handleRecv answer fd arg) := by
  unfold SimpleEpoll.handleRecv Registrar.handleRecv
  refine (tracks_onTable _ (deref arg)).bind fun ev => ?_
  cases answer with
  | error errno =>
      exact (faithful.del ev).bind fun _ => (tracks_onTable _ _).bind fun _ => Exec.tracks_pure _
  | ok data =>
      refine (tracks_onTable _ _).bind fun _ => (faithful.del ev).bind fun _ => .ite ?_ ?_
      · exact (tracks_onTable _ _).bind fun _ => (tracks_onTable _ _).bind fun _ =>
          (tracks_onTable _ _).bind fun _ => (faithful.add Epoll.EPOLLOUT ev).bind fun _ =>
            Exec.tracks_pure _
      · exact (tracks_onTable _ _).bind fun _ => Exec.tracks_pure _

theorem handleSend (faithful : registrar.Faithful) (answer : Except Nat Nat) (fd : Int)
    (arg : Option Nat) :
    Tracks registrar.table.get (registrar.handleSend answer fd arg)
      (SimpleEpoll.handleSend answer fd arg) := by
  unfold SimpleEpoll.handleSend Registrar.handleSend
  refine (tracks_onTable _ (deref arg)).bind fun ev => (tracks_onTable _ get).bind fun table =>
    (tracks_onTable _ _).bind fun sent => (faithful.del ev).bind fun _ => .ite ?_ ?_
  · exact (tracks_onTable _ _).bind fun _ => (faithful.add Epoll.EPOLLIN ev).bind fun _ =>
      Exec.tracks_pure _
  · exact (tracks_onTable _ _).bind fun _ => Exec.tracks_pure _

theorem invoke (faithful : registrar.Faithful) (answers : Answers) (event : Event size) :
    Tracks registrar.table.get (registrar.invoke answers event)
      (SimpleEpoll.invoke answers event) := by
  unfold SimpleEpoll.invoke Registrar.invoke
  cases event.callBack with
  | none => exact fun _ => rfl
  | some callBack =>
      cases callBack with
      | handleAccept => exact faithful.handleAccept answers
      | handleRecv => exact (faithful.handleRecv _ _ _).map _
      | handleSend => exact (faithful.handleSend _ _ _).map _

end Faithful

end Registrar

/-- Noting the registrations changes nothing in what they do. -/
theorem Watched.faithful : (Watched.registrar : Registrar (Watched size) size).Faithful :=
  ⟨fun _ _ _ => rfl, fun _ _ => rfl⟩

structure Arrival where
  ev : Nat
  answers : Answers

def serve (table : State size) (arrival : Arrival) : State size :=
  match (invoke arrival.answers (table.events arrival.ev)).run table with
  | .ok _ next => next
  | .error _ next => next

def Watched.serve (watched : Watched size) (arrival : Arrival) : Watched size :=
  match (registrar.invoke arrival.answers (watched.table.events arrival.ev)).run watched with
  | .ok _ next => next
  | .error _ next => next

theorem Watched.table_serve (watched : Watched size) (arrival : Arrival) :
    (watched.serve arrival).table = SimpleEpoll.serve watched.table arrival := by
  have tracks : Exec.seen table
      ((registrar.invoke arrival.answers (watched.table.events arrival.ev)).run watched) =
      (invoke arrival.answers (watched.table.events arrival.ev)).run watched.table :=
    faithful.invoke arrival.answers (watched.table.events arrival.ev) watched
  rw [Watched.serve, SimpleEpoll.serve, ← tracks]
  cases (registrar.invoke arrival.answers (watched.table.events arrival.ev)).run watched <;> rfl

theorem Watched.table_foldl (watched : Watched size) (arrivals : List Arrival) :
    (arrivals.foldl Watched.serve watched).table =
      arrivals.foldl SimpleEpoll.serve watched.table := by
  induction arrivals generalizing watched with
  | nil => rfl
  | cons arrival rest ih =>
      rw [List.foldl_cons, ih, table_serve]
      rfl

/-- After every `event_add` and `event_del` of a run the flag tells the truth exactly when epoll
heeds every one of them. -/
theorem truthful_iff_heeded (table : State size) (arrivals : List Arrival) :
    (∀ registration ∈ (arrivals.foldl Watched.serve ⟨table, []⟩).registrations,
      registration.TellsTruth) ↔
    ∀ registration ∈ (arrivals.foldl Watched.serve ⟨table, []⟩).registrations,
      registration.Heeded :=
  forall₂_congr fun registration _ => registration.tellsTruth_iff

/-- A connection is accepted while epoll takes no more descriptors: its slot is busy, and
nothing watches its descriptor. -/
theorem refused_addition_leaves_flag_up :
    let full : Epoll Nat := .empty fun _ _ _ => some 28
    let table : State 1 := State.setEvent ⟨fun _ => .zero 1, .empty, full, []⟩
      MAX_EVENTS 3 .handleAccept MAX_EVENTS
    let arrivals : List Arrival := [⟨MAX_EVENTS, ⟨.ok 5, 0, 0, .ok [], .ok 0⟩⟩]
    let watched := arrivals.foldl Watched.serve ⟨table, []⟩
    (watched.table.events 0).status = 1 ∧ watched.table.epoll.interest 5 = none ∧
      ¬ ∀ registration ∈ watched.registrations, registration.TellsTruth := by
  decide +kernel

end SimpleEpoll

end TestReactor
