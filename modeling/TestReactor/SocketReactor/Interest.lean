import TestReactor.Runs
import TestReactor.SocketReactor.Locks
import TestReactor.SocketReactor.Outcome
import TestReactor.SocketReactor.Registrations

namespace TestReactor

namespace SocketReactor

/-! The interest that epoll holds for each socket against the observers that are
registered for it, when every call of `epoll_ctl` succeeds. -/

variable {reactor next : SocketReactor}

def wanted (observers : List Observer) : BitVec 32 :=
  let asked := fun notification event =>
    if observers.any (·.accepts (some notification)) then event else 0
  asked .readable Epoll.EPOLLIN ||| asked .writable Epoll.EPOLLOUT |||
    asked .error Epoll.EPOLLERR

def mask (reactor : SocketReactor) (fd : Int) : BitVec 32 :=
  match reactor.pollSet.epoll.interest fd with
  | some event => event.events
  | none => 0

def Polled (reactor : SocketReactor) (fd : Int) : Prop :=
  (reactor.pollSet.epoll.interest fd).isSome ∨
    ∃ address : Nat, reactor.pollSet.socketMap[address]? = some fd

structure Follows (reactor : SocketReactor) : Prop where
  mask : ∀ fd, reactor.mask fd = wanted (reactor.registered fd)
  unpolled : ∀ fd, reactor.registered fd = [] → ¬ reactor.Polled fd

def Asks (observer : Observer) : Prop :=
  observer.accepts (some .readable) ∨ observer.accepts (some .writable) ∨
    observer.accepts (some .error)

theorem wanted_eq_zero_iff {observers : List Observer} :
    wanted observers = 0 ↔ ∀ observer ∈ observers, ¬ Asks observer := by
  have bits : ∀ readable writable error : Bool,
      ((if readable then Epoll.EPOLLIN else 0) ||| (if writable then Epoll.EPOLLOUT else 0) |||
        (if error then Epoll.EPOLLERR else 0)) = 0 ↔
        readable = false ∧ writable = false ∧ error = false := by
    decide
  rw [wanted, bits]
  simp only [List.any_eq_false, Asks, not_or]
  constructor
  · rintro ⟨readable, writable, error⟩ observer member
    exact ⟨readable observer member, writable observer member, error observer member⟩
  · intro none
    exact ⟨fun observer member => (none observer member).1,
      fun observer member => (none observer member).2.1,
      fun observer member => (none observer member).2.2⟩

def Call.Asks : Call → Prop
  | .add _ observer => SocketReactor.Asks observer
  | .remove _ _ => False

def step (reactor : SocketReactor) (call : Call) : Option SocketReactor :=
  (call.run.returns reactor).map Prod.snd

/-- A reactor without notification objects, as its constructor leaves it. -/
structure Mute (reactor : SocketReactor) : Prop where
  unowned : ∀ notification, reactor.owns notification = false
  eventless : ∀ n, (reactor.notifiers n).events = []

theorem Mute.eventOf (mute : reactor.Mute) (observer : Observer) :
    SocketNotifier.eventOf reactor observer = none := by
  simp [SocketNotifier.eventOf, pointer, mute.unowned, Observer.accepts]

theorem Mute.interest (mute : reactor.Mute) (n : Nat) : reactor.interest n = 0 := by
  simp [SocketReactor.interest, mute.eventless]

section

variable {n id : Nat} {observer : Observer}

theorem Mute.arrived (mute : reactor.Mute) (fd : Int) : (reactor.arrived fd).2.Mute := by
  unfold SocketReactor.arrived
  split
  case h_1 => exact mute
  case h_2 =>
    refine ⟨mute.unowned, ?_⟩
    intro m
    by_cases new : m = reactor.notifierCount
    · simp [created, putNotifier, Notifier.new, new]
    · simp [created, putNotifier, new, mute.eventless]

theorem Mute.enrolled (mute : reactor.Mute) (n : Nat) (observer : Observer) :
    (reactor.enrolled n observer).Mute := by
  unfold SocketReactor.enrolled
  split
  case isTrue => exact mute
  case isFalse =>
    simp only [enlisted, mute.eventOf]
    refine ⟨mute.unowned, ?_⟩
    intro m
    by_cases same : m = n <;> simp [cloned, putNotifier, putCell, same, mute.eventless]

theorem Mute.delisted (mute : reactor.Mute) (n : Nat) (observer : Observer) (id : Nat) :
    (reactor.delisted n observer id).Mute := by
  simp only [SocketReactor.delisted, mute.eventOf]
  refine ⟨mute.unowned, ?_⟩
  intro m
  by_cases same : m = n <;>
    simp [unlisted, silenced, putNotifier, putCell, same, mute.eventless]

end

/-- The poll set has no socket that asks for anything, and none without observers. -/
structure Blank (registry : Registry Int Observer) (pollSet : PollSet) : Prop where
  obliging : pollSet.epoll.refusal = Epoll.obliging
  unmapped : ∀ address : Nat, pollSet.socketMap[address]? = none
  blank : ∀ fd event, pollSet.epoll.interest fd = some event → event.events = 0
  used : ∀ fd event, pollSet.epoll.interest fd = some event → registry fd ≠ []

theorem Blank.unpolled (blank : Blank reactor.registered reactor.pollSet) {fd : Int}
    (empty : reactor.registered fd = []) : ¬ reactor.Polled fd := by
  rintro (held | ⟨address, found⟩)
  · obtain ⟨event, held⟩ := Option.isSome_iff_exists.mp held
    exact blank.used fd event held empty
  · rw [blank.unmapped address] at found
    contradiction

theorem Blank.mask (blank : Blank reactor.registered reactor.pollSet) (fd : Int) :
    reactor.mask fd = 0 := by
  unfold SocketReactor.mask
  split
  case h_1 event held => exact blank.blank fd event held
  case h_2 => rfl

section

variable {registry : Registry Int Observer} {pollSet : PollSet} {socket : SocketRef}

theorem Blank.add (blank : Blank registry pollSet) (fd : Int) (observer : Observer) :
    Blank (registry.add fd observer) pollSet where
  obliging := blank.obliging
  unmapped := blank.unmapped
  blank := blank.blank
  used other event held :=
    List.ne_nil_of_mem (Registry.subset_add
      (List.exists_mem_of_ne_nil _ (blank.used other event held)).choose_spec)

theorem Blank.put (blank : Blank registry pollSet) (fd : Int) {observers : List Observer}
    (some_left : observers ≠ []) : Blank (registry.put fd observers) pollSet where
  obliging := blank.obliging
  unmapped := blank.unmapped
  blank := blank.blank
  used := by
    intro other event held
    by_cases same : other = fd
    · rwa [same, Registry.put_self]
    · rw [Registry.put_of_ne same]
      exact blank.used other event held

theorem Blank.updated (blank : Blank registry pollSet) (socket : SocketRef)
    (used : registry socket.sockfd ≠ []) :
    Blank registry (pollSet.controlled .mod socket.sockfd ⟨0, socket.address⟩) := by
  have obliging : (pollSet.controlled .mod socket.sockfd ⟨0, socket.address⟩).epoll.refusal =
      Epoll.obliging := Epoll.refusal_ctl.trans blank.obliging
  cases refused : pollSet.epoll.refused .mod socket.sockfd with
  | some errno =>
      have same : (pollSet.controlled .mod socket.sockfd ⟨0, socket.address⟩).epoll.interest =
          pollSet.epoll.interest := Epoll.ctl_of_refused refused
      refine ⟨obliging, blank.unmapped, ?_, ?_⟩
      · rw [same]
        exact blank.blank
      · rw [same]
        exact blank.used
  | none =>
      have held : ∀ fd, (pollSet.controlled .mod socket.sockfd
          ⟨0, socket.address⟩).epoll.interest fd =
          if fd = socket.sockfd then some ⟨0, socket.address⟩ else pollSet.epoll.interest fd :=
        Epoll.interest_ctl refused
      refine ⟨obliging, blank.unmapped, ?_, ?_⟩
      · intro fd event found
        rw [held] at found
        split at found
        · cases found
          rfl
        · exact blank.blank fd event found
      · intro fd event found
        rw [held] at found
        split at found
        case isTrue same => rwa [same]
        case isFalse => exact blank.used fd event found

theorem Blank.shut (blank : Blank registry pollSet) (socket : SocketRef) :
    Blank (registry.put socket.sockfd []) (pollSet.shut socket) := by
  refine ⟨(PollSet.refusal_shut socket).trans blank.obliging, blank.unmapped, ?_, ?_⟩
  · intro fd event found
    rw [PollSet.interest_shut] at found
    split at found
    · contradiction
    · exact blank.blank fd event found
  · intro fd event found
    rw [PollSet.interest_shut] at found
    split at found
    case isTrue => contradiction
    case isFalse different =>
      rw [Registry.put_of_ne different]
      exact blank.used fd event found

end

/-- What a reactor is as long as no observer asks for anything that epoll reports. -/
structure Deaf (recursive : Bool) (reactor : SocketReactor) : Prop where
  idle : reactor.Idle recursive none
  sound : reactor.Sound
  mute : reactor.Mute
  blank : Blank reactor.registered reactor.pollSet
  unasked : ∀ fd observer, observer ∈ reactor.registered fd → ¬ Asks observer

variable {recursive : Bool}

theorem Deaf.follows (deaf : reactor.Deaf recursive) : reactor.Follows where
  mask fd := by rw [deaf.blank.mask, wanted_eq_zero_iff.mpr (deaf.unasked fd)]
  unpolled _ empty := deaf.blank.unpolled empty

theorem step_eq (unlocked : reactor.Unlocked) (free : ∀ id, (reactor.cells id).mutex.Lockable)
    (call : Call) : reactor.step call = some (reactor.outcome call).2 := by
  rw [step, Exec.returns, run_call unlocked free call]
  cases reactor.outcome call with
  | mk err next => cases err <;> rfl

section

variable {socket : SocketRef} {observer : Observer} {n id : Nat}

theorem Deaf.addition (deaf : reactor.Deaf recursive) (socket : SocketRef) (observer : Observer) :
    reactor.addition socket observer =
      (none, (reactor.arrived socket.sockfd).2.enrolled (reactor.arrived socket.sockfd).1
        observer) := by
  have silent := ((deaf.mute.arrived socket.sockfd).enrolled
    (reactor.arrived socket.sockfd).1 observer).interest (reactor.arrived socket.sockfd).1
  simp only [SocketReactor.addition, silent, if_true]

theorem Deaf.added (deaf : reactor.Deaf recursive) (socket : SocketRef) (observer : Observer) :
    (reactor.addition socket observer).2.Mute ∧
      Blank (reactor.registered.add socket.sockfd observer)
        (reactor.addition socket observer).2.pollSet := by
  rw [deaf.addition]
  refine ⟨(deaf.mute.arrived socket.sockfd).enrolled _ observer, ?_⟩
  rw [pollSet_enrolled, pollSet_arrived]
  exact deaf.blank.add socket.sockfd observer

theorem Deaf.removed (deaf : reactor.Deaf recursive) (socket : SocketRef) (observer : Observer) :
    (reactor.removal socket observer).2.Mute ∧
      Blank (reactor.registered.remove socket.sockfd observer)
        (reactor.removal socket observer).2.pollSet := by
  unfold removal
  cases listed : reactor.listing socket observer with
  | none =>
      rw [Registry.remove_of_not_mem (listing_eq_none_iff.mp listed)]
      exact ⟨deaf.mute, deaf.blank⟩
  | some found =>
      obtain ⟨n, id⟩ := found
      by_cases last : (reactor.notifiers n).observers.length = 1
      · simp only [if_pos last]
        rw [Registry.remove, registered_eq_singleton listed last, List.erase_cons_head]
        exact ⟨⟨deaf.mute.unowned, deaf.mute.eventless⟩, deaf.blank.shut socket⟩
      · have kept := deaf.blank.put socket.sockfd (some_left listed last)
        have mute := deaf.mute.delisted n observer id
        have same := pollSet_delisted reactor n observer id
        simp only [if_neg last, earlyRemoval, mute.interest]
        split
        · refine ⟨⟨mute.unowned, mute.eventless⟩, kept.updated socket ?_⟩
          rw [Registry.put_self]
          exact some_left listed last
        · exact ⟨mute, same.symm ▸ kept⟩

theorem Deaf.step (deaf : reactor.Deaf recursive) {call : Call}
    (stepped : reactor.step call = some next) (silent : ¬ call.Asks) : next.Deaf recursive := by
  have effect := effect_outcome deaf.idle.unlocked deaf.idle.free_cell call
  have entered := registered_effect deaf.sound effect
  rw [step_eq deaf.idle.unlocked deaf.idle.free_cell] at stepped
  cases stepped
  have kept : (reactor.outcome call).2.Mute ∧
      Blank (call.enter reactor.registered) (reactor.outcome call).2.pollSet := by
    cases call with
    | add socket observer => exact deaf.added socket observer
    | remove socket observer => exact deaf.removed socket observer
  refine ⟨deaf.idle.effect effect, deaf.sound.effect effect, kept.1, entered ▸ kept.2, ?_⟩
  intro fd another member
  rw [entered] at member
  cases call with
  | add socket observer =>
      rcases Registry.mem_add member with old | ⟨_, rfl⟩
      · exact deaf.unasked fd another old
      · exact silent
  | remove socket observer =>
      exact deaf.unasked fd another (Registry.mem_of_mem_remove member)

theorem Deaf.unheard (deaf : reactor.Deaf recursive) {call : Call}
    (stepped : reactor.step call = some next) (follows : next.Follows) : ¬ call.Asks := by
  cases call with
  | remove socket observer => exact id
  | add socket observer =>
      have entered : (reactor.outcome (.add socket observer)).2.registered = _ :=
        registered_effect deaf.sound
          (effect_outcome deaf.idle.unlocked deaf.idle.free_cell (.add socket observer))
      rw [step_eq deaf.idle.unlocked deaf.idle.free_cell] at stepped
      cases stepped
      have blank := (deaf.added socket observer).2
      rw [← show _ = reactor.registered.add socket.sockfd observer from entered] at blank
      have silent := blank.mask socket.sockfd
      rw [show SocketReactor.mask _ _ = _ from follows.mask socket.sockfd, wanted_eq_zero_iff,
        entered] at silent
      exact silent observer Registry.mem_add_self

theorem deaf_construct (recursive : Bool) :
    (construct recursive Epoll.obliging).Deaf recursive where
  idle := idle_empty recursive _ _
  sound := sound_empty recursive _ _
  mute := ⟨fun _ => rfl, fun _ => rfl⟩
  blank := by
    refine ⟨rfl, ?_, ?_, ?_⟩
    · intro address
      simp [construct, empty, PollSet.empty]
    · intro fd event held
      simp [construct, empty, PollSet.empty, Epoll.empty] at held
    · intro fd event held
      simp [construct, empty, PollSet.empty, Epoll.empty] at held
  unasked := by
    intro fd observer member
    simp [registered, construct, empty] at member

end

theorem idle_step (idle : reactor.Idle recursive none) (call : Call) :
    ∃ next, reactor.step call = some next ∧ next.Idle recursive none :=
  ⟨_, step_eq idle.unlocked idle.free_cell call,
    idle.effect (effect_outcome idle.unlocked idle.free_cell call)⟩

/-- The interest of a reactor as it is constructed follows its observers until one of
them asks for anything that epoll reports. -/
theorem follows_iff_unasked (recursive : Bool) (calls : List Call) :
    Runs.Always step Follows (construct recursive Epoll.obliging) calls ↔
      ∀ call ∈ calls, ¬ call.Asks := by
  have start := deaf_construct recursive
  rw [← Runs.each_iff_forall (fun _ call idle => idle_step idle call) start.idle]
  exact Runs.always_iff_each (Deaf recursive)
    (fun _ _ _ deaf stepped silent => deaf.step stepped silent)
    (fun _ deaf => deaf.follows)
    (fun _ _ _ deaf stepped follows => deaf.unheard stepped follows) start

theorem readable_observer_is_not_polled :
    ¬ Runs.Always step Follows (construct false Epoll.obliging)
      [.add ⟨100, 3⟩ (.onSocket 0 .readable 0)] := by
  intro always
  have deaf := deaf_construct false
  obtain ⟨next, stepped, _⟩ := idle_step deaf.idle (.add ⟨100, 3⟩ (.onSocket 0 .readable 0))
  exact deaf.unheard stepped (always next stepped).1 (.inl rfl)

end SocketReactor

end TestReactor
