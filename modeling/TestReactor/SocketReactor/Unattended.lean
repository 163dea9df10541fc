import TestReactor.SocketReactor.Interest
import TestReactor.SocketReactor.Lifetimes
import TestReactor.SocketReactor.Outcome
import TestReactor.SocketReactor.Walk

namespace TestReactor

namespace SocketReactor

/-! A reactor whose constructor makes no notifications, and the dispatches that follow its
pointers all the same. -/

variable {reactor : SocketReactor} {recursive : Bool}

def Unpolled (reactor : SocketReactor) : Prop := reactor.pollSet.socketMap.isEmpty = true

theorem Mute.forgotten (mute : reactor.Mute) (socket : SocketRef) (pollSet : PollSet) :
    (reactor.forgotten socket pollSet).Mute :=
  ⟨mute.unowned, mute.eventless⟩

theorem Mute.withPollSet (mute : reactor.Mute) (pollSet : PollSet) :
    (reactor.withPollSet pollSet).Mute :=
  ⟨mute.unowned, mute.eventless⟩

/-- Nothing is remembered of a reactor without notifications: no interest is ever given to
epoll, so no socket gets into the poll set. -/
theorem Mute.addition (mute : reactor.Mute) (unpolled : reactor.Unpolled) (socket : SocketRef)
    (observer : Observer) :
    (reactor.addition socket observer).2.Mute ∧
      (reactor.addition socket observer).2.Unpolled := by
  have entered :=
    (mute.arrived socket.sockfd).enrolled (reactor.arrived socket.sockfd).1 observer
  rw [SocketReactor.addition]
  simp only [entered.interest, if_true]
  refine ⟨entered, ?_⟩
  rw [Unpolled, pollSet_enrolled, pollSet_arrived]
  exact unpolled

theorem Mute.removal (mute : reactor.Mute) (unpolled : reactor.Unpolled) (socket : SocketRef)
    (observer : Observer) :
    (reactor.removal socket observer).2.Mute ∧
      (reactor.removal socket observer).2.Unpolled := by
  unfold SocketReactor.removal
  split
  case h_1 => exact ⟨mute, unpolled⟩
  case h_2 n id _ =>
    have delisted := mute.delisted n observer id
    split
    case isTrue =>
      exact ⟨mute.forgotten socket _, unpolled⟩
    case isFalse =>
      unfold earlyRemoval
      split
      case isTrue => exact ⟨delisted.withPollSet _, unpolled⟩
      case isFalse =>
        refine ⟨delisted, ?_⟩
        rw [Unpolled, pollSet_delisted]
        exact unpolled

theorem Mute.outcome (mute : reactor.Mute) (unpolled : reactor.Unpolled) (call : Call) :
    (reactor.outcome call).2.Mute ∧ (reactor.outcome call).2.Unpolled := by
  cases call with
  | add socket observer => exact mute.addition unpolled socket observer
  | remove socket observer => exact mute.removal unpolled socket observer

theorem run_hasSocketHandlers_unpolled (unlocked : reactor.Unlocked)
    (unpolled : reactor.Unpolled) :
    Session.hasSocketHandlers.run reactor = .ok false reactor := by
  have asked : (Exec.on pollSetField PollSet.isEmpty).run reactor =
      .ok reactor.pollSet.socketMap.isEmpty reactor := by
    rw [Exec.run_on, show pollSetField.get reactor = reactor.pollSet from rfl,
      PollSet.run_isEmpty unlocked.pollSet]
    rfl
  rw [Unpolled] at unpolled
  simp only [Session.hasSocketHandlers, EStateM.run_bind, asked, unpolled, if_true,
    EStateM.run_pure]

namespace Custody

variable {custody : Custody}

/-- The notifications that were used were live then, and each is destroyed once at most, with the
reactor. -/
structure Safe (custody : Custody) : Prop where
  live : ∀ use ∈ custody.uses, use.2 = .live
  once : ∀ notification, custody.destructions notification ≤ if custody.phase = .gone then 1 else 0

/-- The loop has no handler to dispatch anything to. -/
def Unattended (custody : Custody) : Action → Prop
  | .call _ => True
  | .turn _ => custody.session.reactor.handlers.isEmpty = true
  | .shutdown => custody.session.reactor.handlers.isEmpty = true
  | .release => True

structure Untouched (recursive : Bool) (custody : Custody) : Prop where
  idle : custody.session.reactor.Idle recursive none
  mute : custody.session.reactor.Mute
  unpolled : custody.session.reactor.Unpolled
  unused : custody.uses = []
  intact : ∀ notification, custody.destructions notification = 0

theorem Untouched.safe (untouched : Untouched recursive custody) : custody.Safe := by
  refine ⟨?_, ?_⟩
  · rw [untouched.unused]
    exact fun _ member => absurd member List.not_mem_nil
  · intro notification
    rw [untouched.intact]
    exact Nat.zero_le _

theorem run_dispatchNotifier_null (custody : Custody) (n : Nat) :
    (dispatcher.dispatchNotifier none n).run custody =
      .error .fault { custody with uses := custody.uses ++ [(none, .absent)] } :=
  rfl

theorem run_dispatchAll (untouched : Untouched recursive custody)
    (notification : SocketNotification) :
    (dispatcher.dispatchAll notification).run custody =
      if custody.session.reactor.handlers.isEmpty then .ok () custody
      else .error .fault { custody with uses := [(none, .absent)] } := by
  have noted : (dispatcher.note (.broadcast notification)).run custody = .ok () custody := rfl
  have delegated : (dispatcher.onReactor Session.delegates).run custody =
      .ok (custody.session.reactor.handlers.toList.map Prod.snd) custody :=
    Dispatcher.run_onReactor (Session.run_delegates untouched.idle.unlocked)
  have null : (dispatcher.reactor.get custody).pointer notification = none := by
    change custody.session.reactor.pointer notification = none
    simp [SocketReactor.pointer, untouched.mute.unowned]
  simp only [Dispatcher.dispatchAll, EStateM.run_bind, noted, delegated, EStateM.run_get, null,
    ← Std.TreeMap.isEmpty_toList]
  cases custody.session.reactor.handlers.toList with
  | nil => rfl
  | cons first rest =>
      simp [Exec.forEach, run_dispatchNotifier_null, untouched.unused]

theorem run_turn (untouched : Untouched recursive custody)
    (answers : List (Except Nat (List (Epoll.Event Nat)))) :
    (turn answers).run custody = (dispatcher.dispatchAll .idle).run custody := by
  have asked : (dispatcher.onReactor Session.hasSocketHandlers).run custody = .ok false custody :=
    Dispatcher.run_onReactor
      (run_hasSocketHandlers_unpolled untouched.idle.unlocked untouched.unpolled)
  have idled := run_dispatchAll untouched .idle
  simp only [turn, Dispatcher.turn, Exec.run_catching, EStateM.run_bind, asked, Dispatcher.onIdle,
    idled, Bool.false_eq_true, if_false]
  cases custody.session.reactor.handlers.isEmpty <;> rfl

theorem Untouched.call (untouched : Untouched recursive custody) (request : Call) :
    ∃ session, (Session.perform none request).run custody.session = .ok () session ∧
      Untouched recursive { custody with session := session } := by
  have unlocked := untouched.idle.unlocked
  have free := untouched.idle.free_cell
  have ran := run_call unlocked free request
  have idle := untouched.idle.effect (effect_outcome unlocked free request)
  have mute := untouched.mute.outcome untouched.unpolled request
  cases outcome : custody.session.reactor.outcome request with
  | mk err next =>
      rw [outcome] at ran idle mute
      cases err with
      | none =>
          exact ⟨_, Session.run_perform_ok ran,
            idle, mute.1, mute.2, untouched.unused, untouched.intact⟩
      | some errno =>
          exact ⟨_, Session.run_perform_throw ran,
            idle, mute.1, mute.2, untouched.unused, untouched.intact⟩

theorem Untouched.sends (untouched : Untouched recursive custody)
    (notification : SocketNotification) {action : Action} {next : Custody}
    (ran : action.run.run custody = (dispatcher.dispatchAll notification).run custody)
    (stepped : custody.step action = some next) :
    custody.session.reactor.handlers.isEmpty = true ∧ Untouched recursive next ∨
      ¬ custody.session.reactor.handlers.isEmpty = true ∧ next.uses = [(none, .absent)] := by
  have working : custody.phase = .working := by
    by_contra ended
    simp [step, ended] at stepped
  rw [step, if_pos working, ran, run_dispatchAll untouched] at stepped
  cases unattended : custody.session.reactor.handlers.isEmpty with
  | true =>
      rw [unattended] at stepped
      cases stepped
      exact .inl ⟨rfl, untouched⟩
  | false =>
      rw [unattended] at stepped
      cases stepped
      exact .inr ⟨Bool.false_ne_true, rfl⟩

theorem Untouched.acts (untouched : Untouched recursive custody) {action : Action}
    {next : Custody} (stepped : custody.step action = some next) :
    custody.Unattended action ∧ Untouched recursive next ∨
      ¬ custody.Unattended action ∧ next.uses = [(none, .absent)] := by
  cases action with
  | call request =>
      obtain ⟨session, ran, kept⟩ := untouched.call request
      have performed : (Action.call request).run.run custody =
          .ok () { custody with session := session } := by
        simp only [Action.run, onSession, Exec.run_on,
          show sessionField.get custody = custody.session from rfl, ran]
        rfl
      rw [step, performed] at stepped
      split at stepped
      case isTrue =>
        cases stepped
        exact .inl ⟨trivial, kept⟩
      case isFalse => contradiction
  | turn answers =>
      have turned : (Action.turn answers).run.run custody =
          (dispatcher.dispatchAll .idle).run custody := run_turn untouched answers
      exact untouched.sends .idle turned stepped
  | shutdown => exact untouched.sends .shutdown rfl stepped
  | release =>
      rw [step] at stepped
      split at stepped
      case isTrue =>
        cases stepped
        refine .inl ⟨trivial, untouched.idle, untouched.mute, untouched.unpolled,
          untouched.unused, ?_⟩
        intro notification
        simp [untouched.mute.unowned, untouched.intact]
      case isFalse => contradiction

theorem Untouched.step (untouched : Untouched recursive custody) {action : Action}
    {next : Custody} (stepped : custody.step action = some next)
    (unattended : custody.Unattended action) : Untouched recursive next := by
  rcases untouched.acts stepped with ⟨_, kept⟩ | ⟨attended, _⟩
  · exact kept
  · exact absurd unattended attended

theorem Untouched.breaks (untouched : Untouched recursive custody) {action : Action}
    {next : Custody} (stepped : custody.step action = some next) (safe : next.Safe) :
    custody.Unattended action := by
  rcases untouched.acts stepped with ⟨unattended, _⟩ | ⟨_, used⟩
  · exact unattended
  · have live := safe.live (none, .absent) (by simp [used])
    contradiction

theorem untouched_construct (recursive : Bool) (refusal : Nat → CtlOp → Bool → Option Nat)
    (behaviour : Nat → Behaviour) :
    Untouched recursive (start (construct recursive refusal) behaviour) where
  idle := idle_empty recursive _ _
  mute := ⟨fun _ => rfl, fun _ => rfl⟩
  unpolled := rfl
  unused := rfl
  intact _ := rfl

/-- In a run of a reactor that its constructor has made, the notifications are used and
destroyed as they should be just as long as there is no handler to dispatch them to. -/
theorem safe_iff_unattended (recursive : Bool) (refusal : Nat → CtlOp → Bool → Option Nat)
    (behaviour : Nat → Behaviour) (actions : List Action) :
    Runs.Always step Safe (start (construct recursive refusal) behaviour) actions ↔
      Runs.Each step Unattended (start (construct recursive refusal) behaviour) actions :=
  Runs.always_iff_each (Untouched recursive)
    (fun _ _ _ untouched stepped unattended => untouched.step stepped unattended)
    (fun _ untouched => untouched.safe)
    (fun _ _ _ untouched stepped safe => untouched.breaks stepped safe)
    (untouched_construct recursive refusal behaviour)

/-- The turn after the first registration uses a notification that there is not. -/
theorem idle_turn_is_unsafe :
    ¬ Runs.Always step Safe (start (construct false Epoll.strict) fun _ => ⟨[], false⟩)
      [.call (.add ⟨100, 3⟩ (.onSocket 1 .readable 0)), .turn []] := by
  intro always
  have untouched := untouched_construct false Epoll.strict fun _ => ⟨[], false⟩
  generalize working : start (construct false Epoll.strict) (fun _ => ⟨[], false⟩) = custody at *
  have registered : (custody.step (.call (.add ⟨100, 3⟩ (.onSocket 1 .readable 0)))).any
      (fun next => next.phase == .working && !next.session.reactor.handlers.isEmpty) = true := by
    subst working
    decide +kernel
  obtain ⟨next, stepped, registered⟩ := (Option.any_eq_true _ _).mp registered
  rw [Bool.and_eq_true, beq_iff_eq, Bool.not_eq_true'] at registered
  have kept := untouched.step stepped trivial
  have turned : next.step (.turn []) =
      some { next with uses := [(none, .absent)], phase := .stopped } := by
    rw [step, if_pos registered.1, Action.run, run_turn kept, run_dispatchAll kept, registered.2]
    rfl
  have idle := kept.breaks turned ((always next stepped).2 _ turned).1
  exact Bool.false_ne_true (registered.2.symm.trans idle)

end Custody

end SocketReactor

end TestReactor
