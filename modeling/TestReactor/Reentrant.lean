import TestReactor.Exec

namespace TestReactor

/-! Which kind of mutex a program locks decides only whether it deadlocks.
`relock` turns the mutexes of a state into re-entrant ones. -/

/-- `relock` makes `mutex` re-entrant and leaves how often it is held. -/
structure Relocks (relock : σ → σ) (mutex : Field σ Mutex) : Prop where
  recursive : ∀ state, (mutex.get (relock state)).recursive = true
  enter : ∀ state, relock (mutex.set (mutex.get state).enter state) =
    mutex.set (mutex.get (relock state)).enter (relock state)
  leave : ∀ state, relock (mutex.set (mutex.get state).leave state) =
    mutex.set (mutex.get (relock state)).leave (relock state)

/-- `relock` leaves the part of a state alone. -/
structure Spares (relock : σ → σ) (part : Field σ τ) : Prop where
  get : ∀ state, part.get (relock state) = part.get state
  set : ∀ value state, relock (part.set value state) = part.set value (relock state)

def mapState (relock : σ → σ) :
    EStateM.Result Stop σ α → EStateM.Result Stop σ α
  | .ok value next => .ok value (relock next)
  | .error stop next => .error stop (relock next)

/-- Unless it deadlocks, `body` does with re-entrant mutexes what it does
without. -/
def Simulates (relock : σ → σ) (body : Exec σ α) : Prop :=
  ∀ state, (∃ next, body.run state = .error .deadlock next) ∨
    body.run (relock state) = mapState relock (body.run state)

namespace Simulates

variable {relock : σ → σ}

theorem pure (value : α) : Simulates relock (Pure.pure value) :=
  fun _ => .inr rfl

theorem raise (stop : Stop) : Simulates relock (Exec.raise stop : Exec σ α) :=
  fun _ => .inr rfl

theorem assert (condition : Bool) : Simulates relock (Exec.assert condition) := by
  cases condition with
  | true => exact .pure ()
  | false => exact .raise .abort

theorem bind {body : Exec σ α} {rest : α → Exec σ β}
    (first : Simulates relock body) (second : ∀ value, Simulates relock (rest value)) :
    Simulates relock (body >>= rest) := by
  intro state
  rw [EStateM.run_bind, EStateM.run_bind]
  rcases first state with ⟨next, deadlocked⟩ | agrees
  · rw [deadlocked]
    exact .inl ⟨next, rfl⟩
  · rw [agrees]
    cases ran : body.run state with
    | ok value next => exact second value next
    | error stop next => exact .inr rfl

/-- A program that reads its state must not look at the mutexes. -/
theorem get_bind {rest : σ → Exec σ α} (blind : ∀ state, rest (relock state) = rest state)
    (second : ∀ state, Simulates relock (rest state)) :
    Simulates relock (get >>= rest) := by
  intro state
  have agrees := second state state
  rw [EStateM.run_bind, EStateM.run_bind, EStateM.run_get, EStateM.run_get]
  simp only [blind]
  exact agrees

theorem modify {change : σ → σ}
    (commutes : ∀ state, change (relock state) = relock (change state)) :
    Simulates relock (modify change) := by
  intro state
  refine .inr ?_
  rw [EStateM.run_modify, EStateM.run_modify, commutes]
  rfl

theorem map {body : Exec σ α} (f : α → β) (first : Simulates relock body) :
    Simulates relock (f <$> body) := by
  intro state
  rw [Exec.run_map, Exec.run_map]
  rcases first state with ⟨next, deadlocked⟩ | agrees
  · rw [deadlocked]
    exact .inl ⟨next, rfl⟩
  · rw [agrees]
    refine .inr ?_
    cases body.run state <;> rfl

theorem ite {condition : Prop} [Decidable condition] {first second : Exec σ α}
    (left : Simulates relock first) (right : Simulates relock second) :
    Simulates relock (if condition then first else second) := by
  split
  · exact left
  · exact right

theorem when (condition : Bool) {body : Exec σ Unit} (inner : Simulates relock body) :
    Simulates relock (Exec.when condition body) := by
  cases condition with
  | true => exact inner
  | false => exact .pure ()

theorem on {part : Field σ τ} (spares : Spares relock part) (body : Exec τ α) :
    Simulates relock (Exec.on part body) := by
  intro state
  refine .inr ?_
  rw [Exec.run_on, Exec.run_on, spares.get]
  cases body.run (part.get state) with
  | ok value next => exact congrArg (EStateM.Result.ok value) (spares.set next state).symm
  | error stop next =>
      exact congrArg (EStateM.Result.error stop) (spares.set next state).symm

theorem callOn (object : τ) (body : Exec τ α) :
    Simulates relock (Exec.callOn object body : Exec σ (α × τ)) := by
  intro state
  refine .inr ?_
  rw [Exec.run_callOn, Exec.run_callOn]
  cases body.run object <;> rfl

theorem scopedLock {mutex : Field σ Mutex} (relocks : Relocks relock mutex)
    {body : Exec σ α} (inner : Simulates relock body) :
    Simulates relock (scopedLock mutex body) := by
  intro state
  by_cases lockable : (mutex.get state).Lockable
  · rw [run_scopedLock_of_lockable mutex body lockable,
      run_scopedLock_of_lockable mutex body (.of_recursive (relocks.recursive state)),
      ← relocks.enter]
    rcases inner (mutex.set (mutex.get state).enter state) with
      ⟨next, deadlocked⟩ | agrees
    · rw [deadlocked]
      exact .inl ⟨next, rfl⟩
    · rw [agrees]
      refine .inr ?_
      cases body.run (mutex.set (mutex.get state).enter state) with
      | ok value next => exact congrArg (EStateM.Result.ok value) (relocks.leave next).symm
      | error stop next =>
          cases stop with
          | throw what =>
              exact congrArg (EStateM.Result.error (Stop.throw what)) (relocks.leave next).symm
          | blocked => rfl
          | deadlock => rfl
          | fault => rfl
          | abort => rfl
  · exact .inl ⟨state, run_scopedLock_of_not_lockable mutex body lockable⟩

theorem returns {body : Exec σ α} (simulates : Simulates relock body) {state next : σ}
    {result : Except String α} (returned : body.returns state = some (result, next)) :
    body.returns (relock state) = some (result, relock next) := by
  unfold Exec.returns at returned ⊢
  rcases simulates state with ⟨stuck, deadlocked⟩ | agrees
  · rw [deadlocked] at returned
    contradiction
  · rw [agrees]
    cases ran : body.run state with
    | ok value last =>
        rw [ran] at returned
        cases returned
        rfl
    | error stop last =>
        rw [ran] at returned
        cases stop with
        | throw what =>
            cases returned
            rfl
        | blocked => contradiction
        | deadlock => contradiction
        | fault => contradiction
        | abort => contradiction

theorem crashes {body : Exec σ α} (simulates : Simulates relock body) {state next : σ}
    {stop : Stop} (stopped : body.run state = .error stop next)
    (other : stop ≠ .deadlock) :
    body.run (relock state) = .error stop (relock next) := by
  rcases simulates state with ⟨stuck, deadlocked⟩ | agrees
  · rw [deadlocked] at stopped
    cases stopped
    contradiction
  · rw [agrees, stopped]
    rfl

end Simulates

end TestReactor
