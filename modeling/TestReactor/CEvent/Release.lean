import Mathlib.Data.List.Induction
import TestReactor.CEvent
import TestReactor.Threads

namespace TestReactor

/-! Whom an event lets through, for any threads and any order of their sections. -/

namespace CEvent

structure Watched where
  event : CEvent
  history : List Outcome

/-- An idle thread starts a call; one that waits is woken, by a signal or for no
reason, and with or without its time being up. -/
inductive Turn where
  | call (call : Call)
  | wake (rc : CvStatus)

namespace Watched

def run (watched : Watched) (rc : CvStatus) (call : Call) :
    Option (Watched × Option Call) :=
  match (attempt rc call).run watched.event with
  | .ok none event => some ({ watched with event := event }, some call)
  | .ok (some outcome) event => some (⟨event, watched.history ++ [outcome]⟩, none)
  | .error _ _ => none

def act (watched : Watched) : Option Call → Turn → Option (Watched × Option Call)
  | none, .call call => watched.run .noTimeout call
  | some call, .wake rc => watched.run rc call
  | _, _ => none

end Watched

/-! What a history says about the flag. -/

def latch (auto ready : Bool) : Outcome → Bool
  | .set => true
  | .reset => false
  | .released => ready && !auto
  | .timedOut => ready

def latched (auto : Bool) (history : List Outcome) : Bool := history.foldl (latch auto) false

def Gated (auto : Bool) (history : List Outcome) : Prop :=
  ∀ front, front ++ [.released] <+: history → latched auto front = true

structure Releases (auto : Bool) (history : List Outcome) : Prop where
  between : auto = true → ∀ front middle back,
    history = front ++ .released :: middle ++ .released :: back → .set ∈ middle
  balance : auto = true → history.count .released ≤ history.count .set
  standing : auto = false → ∀ front back, history = front ++ .released :: back →
    ∃ before since, front = before ++ .set :: since ∧ .reset ∉ since

section

variable {auto : Bool} {history : List Outcome}

theorem latched_concat (outcome : Outcome) :
    latched auto (history ++ [outcome]) = latch auto (latched auto history) outcome := by
  rw [latched, latched, List.foldl_append, List.foldl_cons, List.foldl_nil]

/-- A raised flag was raised by a `set` that nothing has taken back since. -/
theorem set_of_latched (raised : latched auto history = true) :
    ∃ before since, history = before ++ .set :: since ∧ .reset ∉ since ∧
      (auto = true → .released ∉ since) := by
  induction history using List.reverseRecOn with
  | nil => cases raised
  | append_singleton front outcome ih =>
      rw [latched_concat] at raised
      have later (kept : latched auto front = true) (same : outcome ≠ .reset)
          (passed : auto = true → outcome ≠ .released) :
          ∃ before since, front ++ [outcome] = before ++ .set :: since ∧ .reset ∉ since ∧
            (auto = true → .released ∉ since) := by
        obtain ⟨before, since, rfl, no_reset, no_release⟩ := ih kept
        refine ⟨before, since ++ [outcome], by simp, ?_, ?_⟩
        · simp [no_reset, same.symm]
        · intro automatic
          simp [no_release automatic, (passed automatic).symm]
      cases outcome with
      | set => exact ⟨front, [], rfl, by simp, by simp⟩
      | reset => cases raised
      | released =>
          simp only [latch, Bool.and_eq_true, Bool.not_eq_true'] at raised
          exact later raised.1 (by simp) (by simp [raised.2])
      | timedOut => exact later raised (by simp) (by simp)

theorem gated_nil : Gated auto [] := by
  intro front reached
  simp at reached

theorem Gated.concat {outcome : Outcome} (gated : Gated auto history)
    (passes : outcome = .released → latched auto history = true) :
    Gated auto (history ++ [outcome]) := by
  intro front reached
  rcases List.prefix_concat_iff.mp reached with same | earlier
  · obtain ⟨rfl, last⟩ := List.append_inj' same rfl
    exact passes (List.singleton_inj.mp last).symm
  · exact gated front earlier

theorem Gated.of_concat {outcome : Outcome} (gated : Gated auto (history ++ [outcome])) :
    Gated auto history ∧ (outcome = .released → latched auto history = true) := by
  constructor
  · intro front reached
    exact gated front (reached.trans (List.prefix_append _ _))
  · rintro rfl
    exact gated history (List.prefix_refl _)

/-- Every pass of an automatic event uses up a `set`; one more stands behind a flag
that is up. -/
theorem Gated.balance (gated : Gated true history) :
    history.count .released + (latched true history).toNat ≤ history.count .set := by
  induction history using List.reverseRecOn with
  | nil => decide
  | append_singleton front outcome ih =>
      obtain ⟨earlier, passes⟩ := gated.of_concat
      have counted := ih earlier
      rw [latched_concat]
      cases outcome with
      | set =>
          have one := Bool.toNat_le (latched true front)
          simp [latch]
          omega
      | reset =>
          simp [latch]
          omega
      | released =>
          rw [passes rfl] at counted
          simp [latch] at counted ⊢
          omega
      | timedOut =>
          simp [latch]
          omega

theorem Gated.releases (gated : Gated auto history) : Releases auto history where
  between := by
    rintro rfl front middle back rfl
    have raised := gated (front ++ .released :: middle) ⟨back, by simp⟩
    obtain ⟨before, since, split, -, unused⟩ := set_of_latched raised
    have unused := unused rfl
    -- The `set` stands behind the first pass, for nothing passed since.
    rcases List.append_eq_append_iff.mp split with ⟨gap, rfl, rest⟩ | ⟨gap, rfl, rest⟩
    · cases gap with
      | nil => simp at rest
      | cons first gap =>
          obtain ⟨-, rfl⟩ := List.cons.inj rest
          simp
    · cases gap with
      | nil => simp at rest
      | cons first gap =>
          obtain ⟨-, rfl⟩ := List.cons.inj rest
          simp at unused
  balance := by
    rintro rfl
    exact Nat.le_trans (Nat.le_add_right _ _) gated.balance
  standing := by
    rintro - front back rfl
    obtain ⟨before, since, split, no_reset, -⟩ := set_of_latched
      (gated front ⟨back, by simp⟩)
    exact ⟨before, since, split, no_reset⟩

end

theorem attempt_cases (rc : CvStatus) (call : Call) (event : CEvent) :
    ∃ outcome next, (attempt rc call).run event = .ok outcome next ∧
      next.auto = event.auto ∧
      (outcome = some .released → event.ready = true) ∧
      next.ready = match outcome with
        | none => event.ready
        | some outcome => latch event.auto event.ready outcome := by
  obtain ⟨auto, ready⟩ := event
  cases call with
  | set => exact ⟨_, _, rfl, rfl, by simp, rfl⟩
  | reset => exact ⟨_, _, rfl, rfl, by simp, rfl⟩
  | wait =>
      cases ready <;> cases auto <;> exact ⟨_, _, rfl, rfl, by simp, rfl⟩
  | waitFor milliseconds =>
      cases rc <;> cases ready <;> cases auto <;> exact ⟨_, _, rfl, rfl, by simp, rfl⟩
  | tryWait milliseconds =>
      cases rc <;> cases ready <;> cases auto <;> exact ⟨_, _, rfl, rfl, by simp, rfl⟩

/-- No section blocks or throws: a thread is only ever held up by its waits. -/
theorem Watched.run_isSome (watched : Watched) (rc : CvStatus) (call : Call) :
    (watched.run rc call).isSome = true := by
  obtain ⟨outcome, event, attempted, -⟩ := attempt_cases rc call watched.event
  rw [Watched.run, attempted]
  cases outcome <;> rfl

structure Consistent (auto : Bool) (watched : Watched) : Prop where
  kind : watched.event.auto = auto
  ready : watched.event.ready = latched auto watched.history
  gated : Gated auto watched.history

theorem Consistent.run {auto : Bool} {watched next : Watched} {rc : CvStatus} {call : Call}
    {control : Option Call} (consistent : Consistent auto watched)
    (ran : watched.run rc call = some (next, control)) : Consistent auto next := by
  obtain ⟨same, ready, gated⟩ := consistent
  obtain ⟨outcome, event, attempted, kept, passes, flag⟩ := attempt_cases rc call watched.event
  rw [Watched.run, attempted] at ran
  cases outcome with
  | none =>
      cases ran
      exact ⟨kept.trans same, flag.trans ready, gated⟩
  | some outcome =>
      cases ran
      refine ⟨kept.trans same, ?_, gated.concat ?_⟩
      · rw [latched_concat, ← ready, ← same, flag]
      · rintro rfl
        exact ready.symm.trans (passes rfl)

/-- An event lets threads through only on a signal, however the threads that use it
interleave. -/
theorem releases_on_signal {θ : Type} [DecidableEq θ] (type : EventType)
    (turns : List (θ × Turn)) :
    Runs.Always (Threads.step Watched.act)
      (fun pool => Releases (type = .autoReset) pool.shared.history)
      ⟨⟨construct type, []⟩, fun _ => none⟩ turns := by
  have always : Runs.Always (Threads.step Watched.act)
      (fun pool : Threads.Pool θ Watched (Option Call) =>
        Consistent (type = .autoReset) pool.shared)
      ⟨⟨construct type, []⟩, fun _ => none⟩ turns := by
    apply Threads.always_shared
    · intro watched control turn next control' consistent acted
      cases control with
      | none =>
          cases turn with
          | call call => exact consistent.run acted
          | wake rc => cases acted
      | some call =>
          cases turn with
          | call call => cases acted
          | wake rc => exact consistent.run acted
    · exact ⟨rfl, rfl, gated_nil⟩
  apply always.mono
  intro pool consistent
  exact consistent.gated.releases

end CEvent

end TestReactor
