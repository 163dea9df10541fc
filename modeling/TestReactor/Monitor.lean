import Mathlib.Logic.Function.Basic
import TestReactor.Runs

namespace TestReactor

/-! Monitors: a state behind a mutex, with a condition variable.  Threads run sections of code
under the mutex, one access to the state after the other, and a thread that waits gets the mutex
back when it is notified, or for any other reason. -/

namespace Monitor

/-- What a thread does from where it has the mutex to where it lets go of it. -/
inductive Code (σ ρ : Type) where
  | access (change : σ → σ) (rest : σ → Code σ ρ)
  | notifyAll (rest : Code σ ρ)
  | wait
  | leave (result : ρ)

/-- What a section comes to: without a result, the thread waits. -/
structure Effect (σ ρ : Type) where
  state : σ
  notified : Bool
  result : Option ρ
  deriving DecidableEq, Repr

def Code.run : Code σ ρ → σ → Effect σ ρ
  | .access change rest, state => (rest state).run (change state)
  | .notifyAll rest, state => { rest.run state with notified := true }
  | .wait, state => ⟨state, false, none⟩
  | .leave result, state => ⟨state, false, some result⟩

/-- Where a thread is: it has made no call, is about to lock the mutex, holds it, waits, or
waits no longer but has not got the mutex back. -/
inductive Standing (κ σ ρ : Type) where
  | idle
  | entering (call : κ)
  | inside (call : κ) (code : Code σ ρ)
  | asleep (call : κ)
  | notified (call : κ)

def Standing.alarmed : Standing κ σ ρ → Standing κ σ ρ
  | .asleep call => .notified call
  | standing => standing

/-- A monitor and its threads.  `ended` are the results of the calls so far, oldest first. -/
structure Hall (θ κ σ ρ : Type) where
  state : σ
  holder : Option θ
  standing : θ → Standing κ σ ρ
  ended : List ρ

inductive Move (κ ω : Type) where
  | call (call : κ)
  | enter
  | wake (reason : ω)
  | advance

namespace Hall

variable {θ κ σ ρ ω : Type} [DecidableEq θ]

def start (state : σ) : Hall θ κ σ ρ where
  state := state
  holder := none
  standing := fun _ => .idle
  ended := []

def put (hall : Hall θ κ σ ρ) (thread : θ) (standing : Standing κ σ ρ) : Hall θ κ σ ρ :=
  { hall with standing := Function.update hall.standing thread standing }

/-- `notify_all`. -/
def alarm (hall : Hall θ κ σ ρ) : Hall θ κ σ ρ :=
  { hall with standing := fun thread => (hall.standing thread).alarmed }

def lock (hall : Hall θ κ σ ρ) (thread : θ) (call : κ) (code : Code σ ρ) :
    Option (Hall θ κ σ ρ) :=
  match hall.holder with
  | none => some { hall.put thread (.inside call code) with holder := some thread }
  | some _ => none

def advance (hall : Hall θ κ σ ρ) (thread : θ) (call : κ) : Code σ ρ → Hall θ κ σ ρ
  | .access change rest =>
      { hall.put thread (.inside call (rest hall.state)) with state := change hall.state }
  | .notifyAll rest => hall.alarm.put thread (.inside call rest)
  | .wait => { hall.put thread (.asleep call) with holder := none }
  | .leave result =>
      { hall.put thread .idle with
        holder := none
        ended := hall.ended ++ [result] }

/-- `program call reason` is the section that a call begins with, and the one that follows on
a wait that came back for a reason. -/
def step (program : κ → Option ω → Code σ ρ) (hall : Hall θ κ σ ρ) (turn : θ × Move κ ω) :
    Option (Hall θ κ σ ρ) :=
  match hall.standing turn.1, turn.2 with
  | .idle, .call call => some (hall.put turn.1 (.entering call))
  | .entering call, .enter => hall.lock turn.1 call (program call none)
  | .asleep call, .wake reason => hall.lock turn.1 call (program call (some reason))
  | .notified call, .wake reason => hall.lock turn.1 call (program call (some reason))
  | .inside call code, .advance => some (hall.advance turn.1 call code)
  | _, _ => none

def Sleeping (hall : Hall θ κ σ ρ) : Prop :=
  ∃ thread call, hall.standing thread = .asleep call

end Hall

/-- What whole sections do to a property of the state, and to a property under which there
is nothing to wake up for. -/
structure Disciplined (program : κ → Option ω → Code σ ρ) (inner : σ → List ρ → Prop)
    (quiet : σ → Prop) : Prop where
  keep : ∀ call reason state ended, inner state ended →
    inner ((program call reason).run state).state
      (ended ++ ((program call reason).run state).result.toList)
  sleeps : ∀ call reason state, ((program call reason).run state).result = none →
    quiet ((program call reason).run state).state
  alarms : ∀ call reason state, quiet state →
    ((program call reason).run state).notified = true ∨
      quiet ((program call reason).run state).state

structure Due (inner : σ → List ρ → Prop) (quiet : σ → Prop) (sleeping : Prop)
    (effect : Effect σ ρ) (ended : List ρ) : Prop where
  kept : inner effect.state (ended ++ effect.result.toList)
  sleeps : effect.result = none → quiet effect.state
  alarms : sleeping → effect.notified = true ∨ quiet effect.state

/-- The invariant of a monitor: what holds when the mutex is free, and what the section of its
holder will make of it. -/
structure Kept (inner : σ → List ρ → Prop) (quiet : σ → Prop) (hall : Hall θ κ σ ρ) : Prop where
  free : hall.holder = none → inner hall.state hall.ended ∧ (hall.Sleeping → quiet hall.state)
  inside : ∀ thread call code, hall.standing thread = .inside call code →
    hall.holder = some thread ∧ Due inner quiet hall.Sleeping (code.run hall.state) hall.ended
  held : ∀ thread, hall.holder = some thread →
    ∃ call code, hall.standing thread = .inside call code

theorem kept_start {inner : σ → List ρ → Prop} {quiet : σ → Prop} {state : σ}
    (holds : inner state []) : Kept inner quiet (Hall.start state : Hall θ κ σ ρ) where
  free _ := ⟨holds, fun ⟨_, _, asleep⟩ => by contradiction⟩
  inside _ _ _ standing := by contradiction
  held _ held := by contradiction

section

variable {θ κ σ ρ ω : Type} [DecidableEq θ] {program : κ → Option ω → Code σ ρ}
  {inner : σ → List ρ → Prop} {quiet : σ → Prop} {hall next : Hall θ κ σ ρ} {thread other : θ}
  {call : κ}

@[simp] theorem standing_put_self (hall : Hall θ κ σ ρ) (thread : θ)
    (standing : Standing κ σ ρ) : (hall.put thread standing).standing thread = standing :=
  Function.update_self _ _ _

theorem standing_put_of_ne {standing : Standing κ σ ρ} (different : other ≠ thread) :
    (hall.put thread standing).standing other = hall.standing other :=
  Function.update_of_ne different _ _

theorem sleeping_of_put (hall : Hall θ κ σ ρ) (thread : θ) {standing : Standing κ σ ρ}
    (awake : ∀ call, standing ≠ .asleep call)
    (sleeping : (hall.put thread standing).Sleeping) : hall.Sleeping := by
  obtain ⟨other, call, asleep⟩ := sleeping
  by_cases same : other = thread
  · rw [same, standing_put_self] at asleep
    exact absurd asleep (awake call)
  · exact ⟨other, call, (standing_put_of_ne same).symm.trans asleep⟩

theorem alarmed_ne_asleep (standing : Standing κ σ ρ) : standing.alarmed ≠ .asleep call := by
  cases standing <;> exact fun same => by contradiction

theorem inside_of_alarmed {standing : Standing κ σ ρ} {code : Code σ ρ}
    (inside : standing.alarmed = .inside call code) : standing = .inside call code := by
  cases standing with
  | inside => exact inside
  | idle | entering | asleep | notified => contradiction

omit [DecidableEq θ] in
theorem Kept.alone (kept : Kept inner quiet hall) (held : hall.holder = some thread)
    {code : Code σ ρ} (inside : hall.standing other = .inside call code) : other = thread :=
  Option.some.inj ((kept.inside other call code inside).1.symm.trans held)

theorem Kept.called (kept : Kept inner quiet hall) (idle : hall.standing thread = .idle)
    (call : κ) : Kept inner quiet (hall.put thread (.entering call)) := by
  have before : (hall.put thread (.entering call)).Sleeping → hall.Sleeping :=
    sleeping_of_put hall thread fun _ same => by contradiction
  refine ⟨fun free => ?_, fun other request code inside => ?_, fun other held => ?_⟩
  · obtain ⟨holds, still⟩ := kept.free free
    exact ⟨holds, still ∘ before⟩
  · by_cases same : other = thread
    · rw [same, standing_put_self] at inside
      contradiction
    · rw [standing_put_of_ne same] at inside
      obtain ⟨held, due⟩ := kept.inside other request code inside
      exact ⟨held, due.kept, due.sleeps, due.alarms ∘ before⟩
  · obtain ⟨request, code, inside⟩ := kept.held other held
    refine ⟨request, code, ?_⟩
    rw [standing_put_of_ne ?_, inside]
    rintro rfl
    rw [idle] at inside
    contradiction

theorem Kept.locked (disciplined : Disciplined program inner quiet)
    (kept : Kept inner quiet hall) {reason : Option ω}
    (stepped : hall.lock thread call (program call reason) = some next) :
    Kept inner quiet next := by
  unfold Hall.lock at stepped
  split at stepped
  case h_2 => contradiction
  case h_1 free =>
    cases stepped
    obtain ⟨holds, still⟩ := kept.free free
    refine ⟨fun unheld => by contradiction, fun other request code inside => ?_,
      fun other held => ?_⟩
    · by_cases same : other = thread
      · subst same
        rw [show _ = Standing.inside call (program call reason) from
          standing_put_self hall other _] at inside
        cases inside
        refine ⟨rfl, disciplined.keep call reason _ _ holds, disciplined.sleeps call reason _,
          fun sleeping => disciplined.alarms call reason _ (still ?_)⟩
        exact sleeping_of_put hall other (fun _ same => by contradiction) sleeping
      · rw [show _ = hall.standing other from standing_put_of_ne same] at inside
        have held := (kept.inside other request code inside).1
        rw [free] at held
        contradiction
    · obtain rfl : thread = other := Option.some.inj held
      exact ⟨call, program call reason, standing_put_self hall thread _⟩

omit [DecidableEq θ] in
theorem Kept.remains (kept : Kept inner quiet hall) (held : hall.holder = some thread)
    (holder : next.holder = hall.holder) {rest : Code σ ρ}
    (own : next.standing thread = .inside call rest)
    (others : ∀ other request code, other ≠ thread →
      next.standing other = .inside request code → hall.standing other = .inside request code)
    (due : Due inner quiet next.Sleeping (rest.run next.state) next.ended) :
    Kept inner quiet next where
  free unheld := by
    rw [holder, held] at unheld
    contradiction
  inside other request code inside := by
    by_cases same : other = thread
    · subst same
      cases own.symm.trans inside
      exact ⟨holder.trans held, due⟩
    · exact absurd (kept.alone held (others other request code same inside)) same
  held other owner := by
    obtain rfl : thread = other := Option.some.inj ((holder.trans held).symm.trans owner)
    exact ⟨call, rest, own⟩

omit [DecidableEq θ] in
theorem Kept.released (kept : Kept inner quiet hall) (held : hall.holder = some thread)
    (holder : next.holder = none)
    (own : ∀ request code, next.standing thread ≠ .inside request code)
    (others : ∀ other, other ≠ thread → next.standing other = hall.standing other)
    (holds : inner next.state next.ended) (still : next.Sleeping → quiet next.state) :
    Kept inner quiet next where
  free _ := ⟨holds, still⟩
  inside other request code inside := by
    by_cases same : other = thread
    · subst same
      exact absurd inside (own request code)
    · rw [others other same] at inside
      exact absurd (kept.alone held inside) same
  held other owner := by
    rw [holder] at owner
    contradiction

theorem Kept.advanced (kept : Kept inner quiet hall) {code : Code σ ρ}
    (inside : hall.standing thread = .inside call code) :
    Kept inner quiet (hall.advance thread call code) := by
  obtain ⟨held, due⟩ := kept.inside thread call code inside
  cases code with
  | access change rest =>
      refine kept.remains held rfl (standing_put_self hall thread _)
        (fun other request code different => ?_) ?_
      · exact (standing_put_of_ne different).symm.trans
      · refine ⟨due.kept, due.sleeps, due.alarms ∘ ?_⟩
        exact sleeping_of_put hall thread fun _ same => by contradiction
  | notifyAll rest =>
      refine kept.remains held rfl (standing_put_self hall.alarm thread _)
        (fun other request code different inside => ?_) ?_
      · exact inside_of_alarmed ((standing_put_of_ne different).symm.trans inside)
      · refine ⟨due.kept, due.sleeps, fun sleeping => ?_⟩
        -- Nobody sleeps on: the others have been notified, and the holder is awake.
        obtain ⟨other, request, asleep⟩ :=
          sleeping_of_put hall.alarm thread (fun _ same => by contradiction) sleeping
        exact absurd asleep (alarmed_ne_asleep _)
  | wait =>
      refine kept.released held rfl (fun request code inside => ?_)
        (fun other different => standing_put_of_ne different) ?_ fun _ => due.sleeps rfl
      · have own := (standing_put_self hall thread (.asleep call)).symm.trans inside
        contradiction
      · exact List.append_nil hall.ended ▸ due.kept
  | leave result =>
      refine kept.released held rfl (fun request code inside => ?_)
        (fun other different => standing_put_of_ne different) due.kept fun sleeping => ?_
      · have own := (standing_put_self hall thread .idle).symm.trans inside
        contradiction
      · refine (due.alarms (sleeping_of_put hall thread ?_ sleeping)).resolve_left
          Bool.false_ne_true
        exact fun _ same => by contradiction

theorem Kept.step (disciplined : Disciplined program inner quiet) (kept : Kept inner quiet hall)
    {turn : θ × Move κ ω} (stepped : hall.step program turn = some next) :
    Kept inner quiet next := by
  obtain ⟨thread, move⟩ := turn
  unfold Hall.step at stepped
  split at stepped
  case h_1 idle _ =>
    cases stepped
    exact kept.called idle _
  case h_2 => exact kept.locked disciplined stepped
  case h_3 => exact kept.locked disciplined stepped
  case h_4 => exact kept.locked disciplined stepped
  case h_5 inside _ =>
    cases stepped
    exact kept.advanced inside
  case h_6 => contradiction

/-- The rule for monitors: what whole sections keep holds whenever the mutex is free, however the
threads interleave, and whoever sleeps has nothing to wake up for. -/
theorem Disciplined.always (disciplined : Disciplined program inner quiet) {state : σ}
    (holds : inner state []) (turns : List (θ × Move κ ω)) :
    Runs.Always (Hall.step program) (Kept inner quiet) (Hall.start state) turns :=
  Runs.always_of_keeps (fun _ _ _ kept stepped => kept.step disciplined stepped) (kept_start holds)

end

/-! The holder can always finish its section. -/

section

variable {θ κ σ ρ ω : Type} [DecidableEq θ] {program : κ → Option ω → Code σ ρ}
  {hall next : Hall θ κ σ ρ} {thread : θ} {call : κ}

/-- Where a thread is behind a section with such a result. -/
def Standing.behind (call : κ) : Option ρ → Standing κ σ ρ
  | some _ => .idle
  | none => .asleep call

/-- The monitor behind a section that comes to `effect`. -/
def Hall.behind (hall : Hall θ κ σ ρ) (thread : θ) (call : κ) (effect : Effect σ ρ) :
    Hall θ κ σ ρ :=
  { (if effect.notified then hall.alarm else hall).put thread (.behind call effect.result) with
    state := effect.state
    holder := none
    ended := hall.ended ++ effect.result.toList }

theorem alarm_put_inside (hall : Hall θ κ σ ρ) (thread : θ) (call : κ) (code : Code σ ρ) :
    (hall.put thread (.inside call code)).alarm = hall.alarm.put thread (.inside call code) := by
  simp only [Hall.alarm, Hall.put, Hall.mk.injEq, true_and, and_true]
  funext other
  by_cases same : other = thread
  · rw [same, Function.update_self, Function.update_self]
    rfl
  · rw [Function.update_of_ne same, Function.update_of_ne same]

omit [DecidableEq θ] in
@[simp] theorem alarm_alarm (hall : Hall θ κ σ ρ) : hall.alarm.alarm = hall.alarm := by
  simp only [Hall.alarm, Hall.mk.injEq, true_and, and_true]
  funext other
  cases hall.standing other <;> rfl

theorem behind_of_inside (hall next : Hall θ κ σ ρ) {code : Code σ ρ}
    (standing : next.standing = (hall.put thread (.inside call code)).standing)
    (ended : next.ended = hall.ended) (effect : Effect σ ρ) :
    next.behind thread call effect = hall.behind thread call effect := by
  have alarmed : next.alarm.standing = (hall.alarm.put thread (.inside call code)).standing := by
    rw [← alarm_put_inside]
    simp only [Hall.alarm, standing]
  unfold Hall.behind
  rw [ended]
  cases effect.notified with
  | true =>
      simp only [if_true, Hall.put, Hall.mk.injEq, true_and, and_true]
      rw [alarmed]
      exact Function.update_idem _ _ _
  | false =>
      simp only [Bool.false_eq_true, if_false, Hall.put, Hall.mk.injEq, true_and, and_true]
      rw [standing]
      exact Function.update_idem _ _ _

theorem behind_alarm (effect : Effect σ ρ) :
    hall.alarm.behind thread call effect =
      hall.behind thread call { effect with notified := true } := by
  unfold Hall.behind
  cases effect.notified with
  | true => simp only [alarm_alarm]; rfl
  | false => rfl

theorem step_advance {code : Code σ ρ} (inside : hall.standing thread = .inside call code) :
    hall.step program (thread, .advance) = some (hall.advance thread call code) := by
  simp only [Hall.step, inside]

theorem exec_advance {code : Code σ ρ} (inside : hall.standing thread = .inside call code) :
    ∃ n, Runs.exec (Hall.step program) hall (List.replicate n (thread, .advance)) =
      some (hall.behind thread call (code.run hall.state)) := by
  induction code generalizing hall with
  | access change rest ih =>
      have own : (hall.advance thread call (.access change rest)).standing thread =
          .inside call (rest hall.state) := standing_put_self hall thread _
      obtain ⟨n, reached⟩ := ih hall.state own
      refine ⟨n + 1, ?_⟩
      rw [List.replicate_succ, Runs.exec_cons, step_advance inside]
      refine reached.trans (congrArg some ?_)
      exact behind_of_inside hall (hall.advance thread call (.access change rest)) rfl rfl _
  | notifyAll rest ih =>
      have own : (hall.advance thread call (.notifyAll rest)).standing thread =
          .inside call rest := standing_put_self hall.alarm thread _
      obtain ⟨n, reached⟩ := ih own
      refine ⟨n + 1, ?_⟩
      rw [List.replicate_succ, Runs.exec_cons, step_advance inside]
      refine reached.trans (congrArg some ?_)
      exact (behind_of_inside hall.alarm _ rfl rfl _).trans (behind_alarm _)
  | wait =>
      refine ⟨1, ?_⟩
      rw [List.replicate_one, Runs.exec_cons, step_advance inside]
      simp [Hall.behind, Hall.advance, Hall.put, Code.run, Standing.behind]
  | leave result =>
      refine ⟨1, ?_⟩
      rw [List.replicate_one, Runs.exec_cons, step_advance inside]
      simp [Hall.behind, Hall.advance, Hall.put, Code.run, Standing.behind]

/-- A thread that can lock the mutex comes to the end of its section by its own steps. -/
theorem exec_section (free : hall.holder = none) {move : Move κ ω} {code : Code σ ρ}
    (enters : hall.step program (thread, move) = hall.lock thread call code) :
    ∃ n, Runs.exec (Hall.step program) hall
        ((thread, move) :: List.replicate n (thread, .advance)) =
      some (hall.behind thread call (code.run hall.state)) := by
  let locked : Hall θ κ σ ρ :=
    { hall.put thread (.inside call code) with holder := some thread }
  have locks : hall.lock thread call code = some locked := by
    rw [Hall.lock, free]
  obtain ⟨n, reached⟩ := @exec_advance _ _ _ _ _ _ program locked thread call code
    (standing_put_self hall thread _)
  refine ⟨n, ?_⟩
  rw [Runs.exec_cons, enters, locks]
  exact reached.trans (congrArg some (behind_of_inside hall locked rfl rfl _))

end

end Monitor

end TestReactor
