import TestReactor.CEvent.Release
import TestReactor.Monitor

namespace TestReactor

/-! The threads of an event as they lock its mutex, sleep and are notified. -/

namespace CEvent

open Monitor

/-- `if (_auto) _ready = false;`, and the end of the call. -/
def pass : Code CEvent Outcome :=
  .access id fun event =>
    if event.auto then
      .access (fun event => { event with ready := false }) fun _ => .leave .released
    else .leave .released

def check : Code CEvent Outcome := .access id fun event => if event.ready then pass else .wait

/-- The calls from where they have the mutex; a wait before came back with the status that is
given. -/
def program : Call → Option CvStatus → Code CEvent Outcome
  | .set, _ => .access (fun event => { event with ready := true }) fun _ => .notifyAll (.leave .set)
  | .reset, _ => .access (fun event => { event with ready := false }) fun _ => .leave .reset
  | .wait, _ => check
  | .waitFor _, some .timeout => .leave .timedOut
  | .waitFor _, _ => check
  | .tryWait _, some .timeout => .leave .timedOut
  | .tryWait _, _ => check

/-- Without the mutex and the sleep of the threads, a section is one attempt. -/
theorem attempt_eq_run (call : Call) (reason : Option CvStatus) (event : CEvent) :
    (attempt (reason.getD .noTimeout) call).run event =
      .ok ((program call reason).run event).result ((program call reason).run event).state := by
  obtain ⟨auto, ready⟩ := event
  cases call with
  | set | reset => rfl
  | wait => cases ready <;> cases auto <;> rfl
  | waitFor milliseconds | tryWait milliseconds =>
      rcases reason with _ | _ | _ <;> cases ready <;> cases auto <;> rfl

theorem watched_run (watched : Watched) (call : Call) (reason : Option CvStatus) :
    ∃ control, watched.run (reason.getD .noTimeout) call =
      some (⟨((program call reason).run watched.event).state,
        watched.history ++ ((program call reason).run watched.event).result.toList⟩, control) := by
  rw [Watched.run, attempt_eq_run]
  cases ((program call reason).run watched.event).result with
  | none =>
      refine ⟨some call, ?_⟩
      simp
  | some outcome => exact ⟨none, rfl⟩

/-- A waiter sleeps on an event that is down, and whoever raises it notifies the sleepers. -/
theorem disciplined (auto : Bool) :
    Disciplined program (fun event ended => Consistent auto ⟨event, ended⟩)
      (fun event => event.ready = false) where
  keep call reason event ended consistent := by
    obtain ⟨control, ran⟩ := watched_run ⟨event, ended⟩ call reason
    exact consistent.run ran
  sleeps call reason event := by
    obtain ⟨auto, ready⟩ := event
    cases call with
    | set | reset => simp [program, Code.run]
    | wait => cases ready <;> cases auto <;> simp [program, check, pass, Code.run]
    | waitFor milliseconds | tryWait milliseconds =>
        rcases reason with _ | _ | _ <;> cases ready <;> cases auto <;>
          simp [program, check, pass, Code.run]
  alarms call reason event := by
    obtain ⟨auto, ready⟩ := event
    rintro (rfl : ready = false)
    cases call with
    | set => exact .inl rfl
    | reset | wait => exact .inr rfl
    | waitFor milliseconds | tryWait milliseconds => rcases reason with _ | _ | _ <;> exact .inr rfl

theorem foldl_latch_true {auto : Bool} {back : List Outcome} (unset : .reset ∉ back)
    (unused : auto = true → .released ∉ back) : back.foldl (latch auto) true = true := by
  induction back with
  | nil => rfl
  | cons outcome rest ih =>
      simp only [List.mem_cons, not_or] at unset unused
      have stays : latch auto true outcome = true := by
        cases outcome with
        | set | timedOut => rfl
        | reset => exact absurd rfl unset.1
        | released =>
            cases auto with
            | false => rfl
            | true => exact absurd rfl (unused rfl).1
      rw [List.foldl_cons, stays]
      exact ih unset.2 fun automatic => (unused automatic).2

/-- Of a flag that is down, every `set` has been taken back or used up. -/
theorem spent_of_unlatched {auto : Bool} {history front back : List Outcome}
    (down : latched auto history = false) (split : history = front ++ .set :: back) :
    .reset ∈ back ∨ auto = true ∧ .released ∈ back := by
  by_contra kept
  rw [not_or, not_and] at kept
  rw [split, latched, List.foldl_append, List.foldl_cons, show latch auto _ .set = true from rfl,
    foldl_latch_true kept.1 kept.2] at down
  contradiction

def Call.Waits : Call → Prop
  | .wait | .waitFor _ | .tryWait _ => True
  | .set | .reset => False

def Regains (call : Call) : Standing Call CEvent Outcome → Move Call CvStatus → Prop
  | .entering own, .enter => own = call
  | .notified own, .wake reason => own = call ∧ (reason = .noTimeout ∨ call = .wait)
  | _, _ => False

theorem run_of_ready {call : Call} (waits : call.Waits) {reason : Option CvStatus}
    (intime : reason ≠ some .timeout ∨ call = .wait) {event : CEvent} (ready : event.ready = true) :
    ((program call reason).run event).result = some .released := by
  obtain ⟨auto, _⟩ := event
  obtain rfl : _ = true := ready
  cases call with
  | set | reset => exact waits.elim
  | wait => cases auto <;> rfl
  | waitFor milliseconds | tryWait milliseconds =>
      rcases reason with _ | _ | _
      · cases auto <;> rfl
      · cases auto <;> rfl
      · rcases intime with late | other <;> contradiction

/-- What can be relied on at an event, its threads being where they are. -/
structure Attentive {θ : Type} [DecidableEq θ] (auto : Bool)
    (hall : Hall θ Call CEvent Outcome) : Prop where
  releases : Releases auto hall.ended
  spent : hall.holder = none → hall.Sleeping → ∀ front back,
    hall.ended = front ++ .set :: back → .reset ∈ back ∨ auto = true ∧ .released ∈ back
  awake : hall.holder = none → hall.state.ready = true → ¬ hall.Sleeping
  passes : hall.holder = none → hall.state.ready = true → ∀ thread call move, call.Waits →
    Regains call (hall.standing thread) move →
      ∃ n next, Runs.exec (Hall.step program) hall
          ((thread, move) :: List.replicate n (thread, .advance)) = some next ∧
        next.standing thread = .idle ∧ next.ended = hall.ended ++ [.released]

section

variable {θ : Type} [DecidableEq θ] {hall : Hall θ Call CEvent Outcome}

theorem passes_of_ready (free : hall.holder = none) (ready : hall.state.ready = true) {thread : θ}
    {call : Call} {move : Move Call CvStatus} (waits : call.Waits)
    (regains : Regains call (hall.standing thread) move) :
    ∃ n next, Runs.exec (Hall.step program) hall
        ((thread, move) :: List.replicate n (thread, .advance)) = some next ∧
      next.standing thread = .idle ∧ next.ended = hall.ended ++ [.released] := by
  obtain ⟨reason, intime, enters⟩ : ∃ reason, (reason ≠ some CvStatus.timeout ∨ call = .wait) ∧
      hall.step program (thread, move) = hall.lock thread call (program call reason) := by
    unfold Hall.step
    cases standing : hall.standing thread with
    | idle | inside | asleep =>
        rw [standing] at regains
        exact regains.elim
    | entering own =>
        rw [standing] at regains
        cases move with
        | enter =>
            obtain rfl : own = call := regains
            exact ⟨none, .inl (by decide), rfl⟩
        | call | wake | advance => exact regains.elim
    | notified own =>
        rw [standing] at regains
        cases move with
        | wake reason =>
            obtain ⟨rfl, intime⟩ := regains
            refine ⟨some reason, intime.imp_left ?_, rfl⟩
            rintro rfl
            decide
        | call | enter | advance => exact regains.elim
  obtain ⟨n, reached⟩ := exec_section free enters
  have released := run_of_ready waits intime ready
  refine ⟨n, _, reached, ?_, ?_⟩
  · rw [Hall.behind, released]
    exact standing_put_self _ thread _
  · rw [Hall.behind, released]
    rfl

theorem attentive_of_kept {auto : Bool} (kept : Kept
    (fun event ended => Consistent auto ⟨event, ended⟩) (fun event => event.ready = false) hall) :
    Attentive auto hall where
  releases := by
    have gated : Gated auto hall.ended := by
      cases holder : hall.holder with
      | none => exact (kept.free holder).1.gated
      | some thread =>
          -- The section of the holder only adds to what has ended.
          obtain ⟨call, code, inside⟩ := kept.held thread holder
          have due := (kept.inside thread call code inside).2.kept.gated
          exact fun front reached => due front (reached.trans (List.prefix_append _ _))
    exact gated.releases
  spent free sleeping front back split := by
    obtain ⟨consistent, down⟩ := kept.free free
    exact spent_of_unlatched (consistent.ready.symm.trans (down sleeping)) split
  awake free ready sleeping := by
    have down := (kept.free free).2 sleeping
    rw [ready] at down
    contradiction
  passes free ready _ _ _ waits regains := passes_of_ready free ready waits regains

/-- However the threads of an event interleave, with the mutex taken and given back, sleeps,
notifications, spurious wake-ups and timeouts: it releases on a signal only, nobody sleeps on a
signal, and a thread in a wait that gets the mutex while the event is signalled passes. -/
theorem signals_reach_waiters (type : EventType) (turns : List (θ × Move Call CvStatus)) :
    Runs.Always (Hall.step program) (Attentive (type = .autoReset))
      (Hall.start (construct type)) turns :=
  ((disciplined (type = .autoReset)).always ⟨rfl, rfl, gated_nil⟩ turns).mono
    fun _ => attentive_of_kept

end

end CEvent

end TestReactor
