import TestReactor.CEvent.Release

namespace TestReactor

/-! What a wait with a deadline tells of the event. -/

namespace CEvent

structure Completion where
  call : Call
  outcome : Outcome
  before : CEvent
  after : CEvent
  deriving DecidableEq, Repr

/-- `tryWait`, and `wait(milliseconds)` which goes by it. -/
def Call.Timed : Call → Prop
  | .waitFor _ | .tryWait _ => True
  | .set | .reset | .wait => False

/-- A wait that gave up left the event unsignalled; one that did not found it signalled, and
took the signal if the event is automatic. -/
def Completion.Honest (completion : Completion) : Prop :=
  completion.call.Timed →
    (completion.outcome = .timedOut → completion.after.ready = false) ∧
    (completion.outcome = .released →
      completion.before.ready = true ∧ completion.after.ready = !completion.before.auto)

structure Answered where
  event : CEvent
  completions : List Completion

namespace Answered

def run (answered : Answered) (rc : CvStatus) (call : Call) :
    Option (Answered × Option Call) :=
  match (attempt rc call).run answered.event with
  | .ok none event => some ({ answered with event := event }, some call)
  | .ok (some outcome) event =>
      some (⟨event, answered.completions ++ [⟨call, outcome, answered.event, event⟩]⟩, none)
  | .error _ _ => none

def act (answered : Answered) : Option Call → Turn → Option (Answered × Option Call)
  | none, .call call => answered.run .noTimeout call
  | some call, .wake rc => answered.run rc call
  | _, _ => none

def Honest (answered : Answered) : Prop :=
  ∀ completion ∈ answered.completions, completion.Honest

/-- A thread whose deadline has passed gets the mutex back while the event is unsignalled. -/
def Timely (answered : Answered) (control : Option Call) (turn : Turn) : Prop :=
  turn = .wake .timeout → ∀ call ∈ control, call.Timed → answered.event.ready = false

end Answered

/-- The result is taken from the status of the wait, not from the flag. -/
theorem honest_iff {rc : CvStatus} {call : Call} {outcome : Outcome} {before after : CEvent}
    (attempted : (attempt rc call).run before = .ok (some outcome) after) :
    (⟨call, outcome, before, after⟩ : Completion).Honest ↔
      (rc = .timeout → call.Timed → before.ready = false) := by
  obtain ⟨auto, ready⟩ := before
  cases call with
  | set | reset | wait => exact iff_of_true False.elim fun _ => False.elim
  | waitFor milliseconds =>
      cases rc <;> cases ready <;> cases auto <;> cases attempted <;>
        simp [Completion.Honest, Call.Timed]
  | tryWait milliseconds =>
      cases rc <;> cases ready <;> cases auto <;> cases attempted <;>
        simp [Completion.Honest, Call.Timed]

theorem not_timed_of_waiting {call : Call} {before after : CEvent}
    (attempted : (attempt .timeout call).run before = .ok none after) : ¬ call.Timed := by
  obtain ⟨auto, ready⟩ := before
  cases call with
  | set | reset | wait => exact id
  | waitFor milliseconds | tryWait milliseconds =>
      cases ready <;> cases auto <;> cases attempted

namespace Answered

theorem honest_run {answered next : Answered} {rc : CvStatus} {call : Call}
    {control : Option Call} (honest : answered.Honest)
    (ran : answered.run rc call = some (next, control)) :
    next.Honest ↔ (rc = .timeout → call.Timed → answered.event.ready = false) := by
  cases attempted : (attempt rc call).run answered.event with
  | error stop event =>
      rw [run, attempted] at ran
      contradiction
  | ok outcome event =>
      cases outcome with
      | none =>
          rw [run, attempted] at ran
          cases ran
          refine iff_of_true honest fun late timed => ?_
          subst late
          exact absurd timed (not_timed_of_waiting attempted)
      | some outcome =>
          have ended := honest_iff attempted
          rw [run, attempted] at ran
          cases ran
          rw [← ended, Honest]
          simp only [List.forall_mem_append, List.forall_mem_singleton]
          exact and_iff_right honest

/-- The step lemma: a section of an honest history keeps it honest exactly when it is timely. -/
theorem honest_act {answered next : Answered} {control control' : Option Call} {turn : Turn}
    (honest : answered.Honest) (acted : answered.act control turn = some (next, control')) :
    next.Honest ↔ answered.Timely control turn := by
  cases control with
  | none =>
      cases turn with
      | call call =>
          rw [honest_run honest acted]
          exact iff_of_true (fun late => by cases late) (fun late => by cases late)
      | wake rc => cases acted
  | some call =>
      cases turn with
      | call call => cases acted
      | wake rc =>
          rw [honest_run honest acted, Timely]
          simp

end Answered

/-- Every timed wait tells the truth, however the threads interleave, exactly when no deadline
that has passed meets a signalled event. -/
theorem honest_iff_timely {θ : Type} [DecidableEq θ] (event : CEvent) (control : θ → Option Call)
    (turns : List (θ × Turn)) :
    Runs.Always (Threads.step Answered.act) (fun pool => pool.shared.Honest)
        ⟨⟨event, []⟩, control⟩ turns ↔
      Runs.Each (Threads.step Answered.act)
        (fun pool turn => pool.shared.Timely (pool.control turn.1) turn.2)
        ⟨⟨event, []⟩, control⟩ turns := by
  apply Runs.always_iff_each (fun pool => pool.shared.Honest)
  · rintro pool ⟨thread, turn⟩ next honest stepped timely
    obtain ⟨shared, control', acted, rfl⟩ := Threads.step_eq_some_iff.mp stepped
    exact (Answered.honest_act honest acted).mpr timely
  · exact fun _ honest => honest
  · rintro pool ⟨thread, turn⟩ next honest stepped kept
    obtain ⟨shared, control', acted, rfl⟩ := Threads.step_eq_some_iff.mp stepped
    exact (Answered.honest_act honest acted).mp kept
  · intro completion ended
    cases ended

/-- A `set` gets in between the deadline and the waiter: it is told that nothing came, and the
signal stays. -/
theorem late_signal_is_missed :
    let turns : List (Bool × Turn) :=
      [(false, .call (.tryWait 10)), (true, .call .set), (false, .wake .timeout)]
    ∃ pool : Threads.Pool Bool Answered (Option Call),
      Runs.exec (Threads.step Answered.act) ⟨⟨construct .autoReset, []⟩, fun _ => none⟩ turns =
        some pool ∧
      pool.shared.completions.getLast? =
        some ⟨.tryWait 10, .timedOut, ⟨true, true⟩, ⟨true, true⟩⟩ ∧
      ¬ pool.shared.Honest := by
  refine ⟨_, rfl, rfl, fun honest => ?_⟩
  have told := (honest ⟨.tryWait 10, .timedOut, ⟨true, true⟩, ⟨true, true⟩⟩
    (.tail _ (.head _)) trivial).1 rfl
  contradiction

end CEvent

end TestReactor
