import TestReactor.SocketReactor.Interest
import TestReactor.SocketReactor.LostRegistration

namespace TestReactor

namespace SocketReactor

/-! What `hasEventHandler` answers behind any calls on a reactor. -/

def Call.update : Call → Registry.Update Int Observer
  | .add socket observer => .add socket.sockfd observer
  | .remove socket observer => .remove socket.sockfd observer

variable {reactor next : SocketReactor} {recursive : Bool}

structure Resting (recursive : Bool) (reactor : SocketReactor) : Prop where
  idle : reactor.Idle recursive none
  sound : reactor.Sound
  distinct : reactor.registered.Distinct

theorem resting_empty (recursive : Bool) (owns : SocketNotification → Bool)
    (refusal : Nat → CtlOp → Bool → Option Nat) :
    (SocketReactor.empty recursive owns refusal).Resting recursive where
  idle := idle_empty recursive owns refusal
  sound := sound_empty recursive owns refusal
  distinct fd := by simp [registered, empty]

theorem update_apply (registry : Registry Int Observer) (call : Call) :
    call.update.apply registry = call.enter registry := by
  cases call <;> rfl

theorem Resting.step (resting : reactor.Resting recursive) (call : Call) :
    ∃ next, reactor.step call = some next ∧ next.Resting recursive ∧
      next.registered = call.update.apply reactor.registered := by
  obtain ⟨idle, sound, distinct⟩ := resting
  have effect := effect_outcome idle.unlocked idle.free_cell call
  have entered := registered_effect sound effect
  rw [← update_apply] at entered
  refine ⟨(reactor.outcome call).2, ?_, ⟨idle.effect effect, sound.effect effect, ?_⟩, entered⟩
  · rw [SocketReactor.step, Exec.returns, run_call idle.unlocked idle.free_cell call]
    cases reactor.outcome call with
    | mk err next => cases err <;> rfl
  · rw [entered]
    exact distinct.apply call.update

theorem Resting.exec (resting : reactor.Resting recursive) (calls : List Call) :
    ∃ last, Runs.exec SocketReactor.step reactor calls = some last ∧ last.Resting recursive ∧
      last.registered = (calls.map Call.update).foldl Registry.Update.apply reactor.registered := by
  induction calls generalizing reactor with
  | nil => exact ⟨reactor, rfl, resting, rfl⟩
  | cons call rest ih =>
      obtain ⟨next, stepped, kept, entered⟩ := resting.step call
      obtain ⟨last, reached, held, registered⟩ := ih kept
      refine ⟨last, ?_, held, ?_⟩
      · rw [Runs.exec_cons, stepped]
        exact reached
      · rw [registered, entered, List.map_cons, List.foldl_cons]

/-- Whatever epoll refuses on the way, `hasEventHandler` answers by the last call that was
made for the observer and the descriptor. -/
theorem hasEventHandler_follows_calls (resting : reactor.Resting recursive) (calls : List Call) :
    ∃ last, Runs.exec SocketReactor.step reactor calls = some last ∧
      ∀ socket observer, (hasEventHandler socket observer).run last =
        .ok ((calls.map Call.update).foldl (Registry.Update.leaves socket.sockfd observer)
          (decide (observer ∈ reactor.registered socket.sockfd))) last := by
  obtain ⟨last, reached, kept, registered⟩ := resting.exec calls
  refine ⟨last, reached, fun socket observer => ?_⟩
  rw [run_hasEventHandler kept.idle.unlocked, registered,
    Registry.mem_foldl_apply resting.distinct]

/-- An observer comes and goes while epoll refuses every `epoll_ctl`; another one stays. -/
theorem hasEventHandler_follows_refused_calls :
    let reactor := SocketReactor.empty false (fun _ => true) fun _ _ _ => some 5
    let gone := Observer.onSocket 1 .readable 0
    let kept := Observer.onSocket 1 .shutdown 2
    ∃ last, Runs.exec SocketReactor.step reactor
        [.add ⟨100, 3⟩ gone, .add ⟨101, 3⟩ kept, .remove ⟨102, 3⟩ gone] = some last ∧
      (hasEventHandler ⟨100, 3⟩ gone).run last = .ok false last ∧
      (hasEventHandler ⟨100, 3⟩ kept).run last = .ok true last := by
  intro reactor gone kept
  obtain ⟨last, reached, answers⟩ := hasEventHandler_follows_calls
    (resting_empty false (fun _ => true) fun _ _ _ => some 5)
    [.add ⟨100, 3⟩ gone, .add ⟨101, 3⟩ kept, .remove ⟨102, 3⟩ gone]
  refine ⟨last, reached, ?_, ?_⟩
  · rw [answers]
    rfl
  · rw [answers]
    rfl

end SocketReactor

end TestReactor
