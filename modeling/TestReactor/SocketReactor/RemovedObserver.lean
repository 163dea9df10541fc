import TestReactor.SocketReactor.Registrations
import TestReactor.SocketReactor.Walk

namespace TestReactor

namespace SocketReactor

/-! An observer that has been removed is not called back any more. -/

/-- Whether an observer stands removed from a socket after an event, when it stood so
before the event or not.  The removal counts from its return, a registration from its
call. -/
def Event.removes (fd : Int) (observer : Observer) (removed : Bool) : Event → Bool
  | .returned (.remove socket other) => removed || (socket.sockfd = fd && other = observer)
  | .calling (.add socket other) _ _ => removed && !(socket.sockfd = fd && other = observer)
  | _ => removed

namespace Session

def removed (log : List Event) (fd : Int) (observer : Observer) : Bool :=
  log.foldl (Event.removes fd observer) false

/-- No observer is called back for a socket that it stands removed from. -/
def NoCallbackAfterRemoval (log : List Event) : Prop :=
  ∀ front back socket observer notification,
    log = front ++ .invoked socket observer notification :: back →
    removed front socket observer = false

/-- A call does not remove the only observer of a socket. -/
def SparesLast : Event → Prop
  | .calling call _ before => before.SparesLast call
  | .returned _ | .invoked _ _ _ => True

instance : DecidablePred SparesLast
  | .calling call _ before => inferInstanceAs (Decidable (before.SparesLast call))
  | .returned _ => inferInstanceAs (Decidable True)
  | .invoked _ _ _ => inferInstanceAs (Decidable True)

/-- `NoCallbackAfterRemoval`, as long as no call removed the only observer of a socket. -/
def Silent (log : List Event) : Prop :=
  ∀ front back socket observer notification,
    log = front ++ .invoked socket observer notification :: back →
    (∀ event ∈ front, SparesLast event) → removed front socket observer = false

theorem Silent.snoc {log : List Event} {event : Event} (silent : Silent log)
    (last : ∀ socket observer notification, event = .invoked socket observer notification →
      (∀ event ∈ log, SparesLast event) → removed log socket observer = false) :
    Silent (log ++ [event]) := by
  intro front back socket observer notification split spared
  rcases List.eq_nil_or_concat back with rfl | ⟨back, final, rfl⟩
  · obtain ⟨rfl, same⟩ := List.append_inj' split rfl
    cases same
    exact last socket observer notification rfl spared
  · rw [List.concat_eq_append, ← List.cons_append, ← List.append_assoc] at split
    obtain ⟨rfl, _⟩ := List.append_inj' split rfl
    exact silent front back socket observer notification rfl spared

/-- What the log tells of the reactor. -/
structure Told (log : List Event) (reactor : SocketReactor) : Prop where
  silent : Silent log
  distinct : reactor.registered.Distinct
  gone : ∀ fd observer, removed log fd observer = true → observer ∉ reactor.registered fd
  linked : (∀ event ∈ log, SparesLast event) → reactor.Linked

theorem removed_snoc (log : List Event) (event : Event) (fd : Int) (observer : Observer) :
    removed (log ++ [event]) fd observer = event.removes fd observer (removed log fd observer) := by
  simp [removed]

variable {log : List Event} {reactor next : SocketReactor} {fd : Int} {observer : Observer}

/-- What stands removed once a call has come back is not registered after it. -/
theorem gone_enter {call : Call} {within : Option Nat} {ok : Bool} (told : Told log reactor)
    (stands : removed (log ++ .calling call within reactor ::
      if ok then [.returned call] else []) fd observer = true) :
    observer ∉ call.enter reactor.registered fd := by
  have began : removed (log ++ [.calling call within reactor]) fd observer = true ∨
      ∃ socket, call = .remove socket observer ∧ socket.sockfd = fd := by
    cases ok with
    | false => exact .inl stands
    | true =>
        rw [if_pos rfl, List.append_cons, removed_snoc] at stands
        cases call with
        | add socket other => exact .inl stands
        | remove socket other =>
            simp only [Event.removes, Bool.or_eq_true, Bool.and_eq_true, decide_eq_true_eq]
              at stands
            rcases stands with before | ⟨rfl, rfl⟩
            · exact .inl before
            · exact .inr ⟨socket, rfl, rfl⟩
  rcases began with before | ⟨socket, rfl, rfl⟩
  · rw [removed_snoc] at before
    cases call with
    | add socket other =>
        simp only [Event.removes, Bool.and_eq_true, Bool.not_eq_true', Bool.and_eq_false_iff,
          decide_eq_false_iff_not] at before
        intro member
        rcases Registry.mem_add member with old | ⟨rfl, rfl⟩
        · exact told.gone fd observer before.1 old
        · rcases before.2 with different | different <;> exact different rfl
    | remove socket other =>
        intro member
        exact told.gone fd observer before (Registry.mem_of_mem_remove member)
  · exact Registry.not_mem_remove told.distinct

theorem Told.call {call : Call} {within : Option Nat} {ok : Bool} (told : Told log reactor)
    (sound : reactor.Sound) (effect : Effect reactor call next ok) :
    Told (log ++ .calling call within reactor :: if ok then [.returned call] else []) next where
  silent := by
    have began : Silent (log ++ [.calling call within reactor]) :=
      told.silent.snoc (by simp)
    cases ok with
    | false => exact began
    | true =>
        rw [if_pos rfl, List.append_cons]
        exact began.snoc (by simp)
  distinct := by
    rw [registered_effect sound effect]
    exact distinct_enter told.distinct call
  gone := by
    intro fd observer stands
    rw [registered_effect sound effect]
    exact gone_enter told stands
  linked := by
    intro spared
    have before := told.linked fun event member => spared event (by simp [member])
    have spares : SparesLast (.calling call within reactor) := spared _ (by simp)
    exact before.effect sound spares effect

theorem Told.invoked (told : Told log reactor) {n id : Nat}
    (listed : id ∈ (reactor.notifiers n).observers) (notification : SocketNotification) :
    Told (log ++ [.invoked (reactor.notifiers n).socket (reactor.cells id).observer
      notification]) reactor where
  silent := by
    apply told.silent.snoc
    rintro socket observer other same spared
    cases same
    rw [← Bool.not_eq_true]
    intro stands
    apply told.gone _ _ stands
    rw [registered_found (told.linked spared n id listed)]
    exact List.mem_map.mpr ⟨id, listed, rfl⟩
  distinct := told.distinct
  gone := by
    intro fd observer stands
    rw [removed_snoc] at stands
    exact told.gone fd observer stands
  linked := by
    intro spared
    exact told.linked fun event member => spared event (by simp [member])

theorem Told.locked (told : Told log reactor) (id : Nat) (mutex : Mutex) :
    Told log ((SocketReactor.observerMutex id).set mutex reactor) where
  silent := told.silent
  distinct := by
    rw [registered_locked]
    exact told.distinct
  gone := by
    rw [registered_locked]
    exact told.gone
  linked := told.linked

theorem Told.withPollSet (told : Told log reactor) (pollSet : PollSet) :
    Told log (reactor.withPollSet pollSet) :=
  ⟨told.silent, told.distinct, told.gone, told.linked⟩

theorem discipline_told : Discipline true Told (fun _ log => Silent log) where
  locked told := told.locked _ _
  call _ sound told _ effect := told.call sound effect
  stuck _ told _ := told.silent.snoc (by simp)
  invoked notification _ told _ listed _ := told.invoked listed notification
  polled pollSet told := told.withPollSet pollSet
  crashed told _ := told.silent

theorem told_empty (recursive : Bool) (owns : SocketNotification → Bool)
    (refusal : Nat → CtlOp → Bool → Option Nat) : Told [] (empty recursive owns refusal) where
  silent := by
    intro front back socket observer notification split
    simp at split
  distinct := by
    intro fd
    simp [registered, empty]
  gone := by
    intro fd observer stands
    contradiction
  linked := by
    intro _ n id member
    simp [empty, Notifier.new] at member

/-- A fresh reactor on re-entrant mutexes, with its six notification objects. -/
def opening (refusal : Nat → CtlOp → Bool → Option Nat) (behaviour : Nat → Behaviour) :
    Session :=
  start (empty true (fun _ => true) refusal) behaviour

theorem silent_after (refusal : Nat → CtlOp → Bool → Option Nat) (behaviour : Nat → Behaviour)
    (actions : List Action) : Silent (after actions (opening refusal behaviour)).log := by
  have walked := ends_run discipline_told (fun _ => true) refusal
    (told_empty true (fun _ => true) refusal) behaviour actions
  unfold Exec.ends at walked
  unfold after opening
  cases ran : (run actions).run (start (empty true (fun _ => true) refusal) behaviour) with
  | ok value last =>
      rw [ran] at walked
      exact walked.silent
  | error stop last =>
      rw [ran] at walked
      cases stop with
      | throw what => exact walked.silent
      | blocked | deadlock | fault | abort => exact walked

theorem no_callback_after_removal (refusal : Nat → CtlOp → Bool → Option Nat)
    (behaviour : Nat → Behaviour) (actions : List Action)
    (spared : ∀ event ∈ (after actions (opening refusal behaviour)).log, SparesLast event) :
    NoCallbackAfterRemoval (after actions (opening refusal behaviour)).log := by
  intro front back socket observer notification split
  apply silent_after refusal behaviour actions front back socket observer notification split
  intro event member
  apply spared
  rw [split]
  exact List.mem_append_left _ member

def firstly (calls : List Call) : Nat → Behaviour
  | 0 => ⟨calls, false⟩
  | _ + 1 => ⟨[], false⟩

/-- Two observers of one socket are about to be told of its input. -/
def input : List Action :=
  let socket : SocketRef := ⟨100, 3⟩
  [.call (.add socket (.onSocket 1 .readable 0)), .call (.add socket (.onSocket 2 .readable 0)),
    .turn [.ok [⟨Epoll.EPOLLIN, socket.address⟩]]]

/-- The first of them has the second one removed. -/
theorem no_callback_after_removal_of_input :
    let session := opening Epoll.strict (firstly [.remove ⟨100, 3⟩ (.onSocket 2 .readable 0)])
    (∀ event ∈ (after input session).log, SparesLast event) ∧
      NoCallbackAfterRemoval (after input session).log := by
  have spared : ∀ event ∈ (after input (opening Epoll.strict
      (firstly [.remove ⟨100, 3⟩ (.onSocket 2 .readable 0)]))).log, SparesLast event := by
    decide +kernel
  exact ⟨spared, no_callback_after_removal _ _ _ spared⟩

/-! Two sockets have an idle observer each, and the first observer removes the second one:
twice, since the first removal throws. -/

def pause : List Action :=
  [.call (.add ⟨100, 3⟩ (.onSocket 1 .idle 0)), .call (.add ⟨200, 4⟩ (.onSocket 2 .idle 0)),
    .turn []]

def removesTwice : Nat → Behaviour :=
  firstly [.remove ⟨200, 4⟩ (.onSocket 2 .idle 0), .remove ⟨200, 4⟩ (.onSocket 2 .idle 0)]

/-- The event at `position` calls an observer back that stands removed. -/
def breaks (log : List Event) (position : Nat) : Bool :=
  match log[position]? with
  | some (.invoked socket observer _) => removed (log.take position) socket observer
  | _ => false

theorem not_noCallbackAfterRemoval {log : List Event} (position : Nat)
    (broken : breaks log position = true) : ¬ NoCallbackAfterRemoval log := by
  intro never
  unfold breaks at broken
  split at broken
  case h_1 socket observer notification found =>
    obtain ⟨inside, same⟩ := List.getElem?_eq_some_iff.mp found
    have split := List.take_append_drop position log
    rw [List.drop_eq_getElem_cons inside, same] at split
    rw [never _ _ socket observer notification split.symm] at broken
    contradiction
  case h_2 => contradiction

theorem removed_observer_is_called_back :
    ¬ NoCallbackAfterRemoval (after pause (opening Epoll.strict removesTwice)).log := by
  apply not_noCallbackAfterRemoval 8
  decide +kernel

end Session

end SocketReactor

end TestReactor
