namespace TestReactor

/-! Stateful calls: a call returns a value, throws, or never comes back. -/

/-- Why a call does not return a value.  Only `throw` is an exception that the
callers can catch.  A call that is `blocked` waits for the kernel; the other
three end the program. -/
inductive Stop where
  | throw (what : String)
  | blocked
  | deadlock
  | fault
  | abort
  deriving DecidableEq, Repr

abbrev Exec (σ α : Type) := EStateM Stop σ α

/-- A part of a state that can be read and replaced on its own. -/
structure Field (σ τ : Type) where
  get : σ → τ
  set : τ → σ → σ
  get_set : ∀ value state, get (set value state) = value
  set_get : ∀ state, set (get state) state = state
  set_set : ∀ first second state, set first (set second state) = set first state

attribute [simp] Field.get_set Field.set_get Field.set_set

def Field.whole : Field σ σ where
  get state := state
  set value _ := value
  get_set _ _ := rfl
  set_get _ := rfl
  set_set _ _ _ := rfl

def Field.part (whole : Field σ τ) (inner : Field τ υ) : Field σ υ where
  get state := inner.get (whole.get state)
  set value state := whole.set (inner.set value (whole.get state)) state
  get_set _ _ := by simp
  set_get _ := by simp
  set_set _ _ _ := by simp

namespace Exec

def raise (stop : Stop) : Exec σ α := fun state => .error stop state

/-- An `assert` of the source: the program ends when it does not hold. -/
def assert (condition : Bool) : Exec σ Unit :=
  if condition then pure () else raise .abort

def on (part : Field σ τ) (body : Exec τ α) : Exec σ α := fun state =>
  match body (part.get state) with
  | .ok value next => .ok value (part.set next state)
  | .error stop next => .error stop (part.set next state)

/-- Runs a method of an object that is not part of the state. -/
def callOn (object : τ) (body : Exec τ α) : Exec σ (α × τ) := fun state =>
  match body object with
  | .ok value next => .ok (value, next) state
  | .error stop _ => .error stop state

/-- A `catch` block.  It sees exceptions only: a deadlocked or crashed body
stays so. -/
def catching (body : Exec σ α) (handler : String → Exec σ α) : Exec σ α :=
  fun state =>
    match body state with
    | .error (.throw what) next => handler what next
    | result => result

def when (condition : Bool) (body : Exec σ Unit) : Exec σ Unit :=
  if condition then body else pure ()

def forEach (items : List ι) (body : ι → Exec σ Unit) : Exec σ Unit :=
  match items with
  | [] => pure ()
  | item :: rest => do
      body item
      forEach rest body

/-- How a call comes back to its caller, if it does: with its value or with an
exception, and the state after it. -/
def returns (body : Exec σ α) (state : σ) : Option (Except String α × σ) :=
  match body.run state with
  | .ok value next => some (.ok value, next)
  | .error (.throw what) next => some (.error what, next)
  | .error _ _ => none

def last (body : Exec σ α) (state : σ) : σ :=
  match body.run state with
  | .ok _ next => next
  | .error _ next => next

theorem last_of_ok {body : Exec σ α} {state next : σ} {value : α}
    (ran : body.run state = .ok value next) : last body state = next := by
  rw [last, ran]

@[simp] theorem run_raise (stop : Stop) (state : σ) :
    (raise stop : Exec σ α).run state = .error stop state := rfl

@[simp] theorem run_assert_true (state : σ) :
    (assert true).run state = .ok () state := rfl

theorem run_on (part : Field σ τ) (body : Exec τ α) (state : σ) :
    (on part body).run state =
      match body.run (part.get state) with
      | .ok value next => .ok value (part.set next state)
      | .error stop next => .error stop (part.set next state) := rfl

theorem run_on_ok {part : Field σ τ} {body : Exec τ α} {state : σ} {value : α} {next : τ}
    (ran : body.run (part.get state) = .ok value next) :
    (on part body).run state = .ok value (part.set next state) := by
  rw [run_on, ran]

theorem run_on_error {part : Field σ τ} {body : Exec τ α} {state : σ} {stop : Stop}
    {next : τ} (ran : body.run (part.get state) = .error stop next) :
    (on part body).run state = .error stop (part.set next state) := by
  rw [run_on, ran]

@[simp] theorem on_whole (body : Exec σ α) : on Field.whole body = body := by
  funext state
  show (match body state with
    | .ok value next => .ok value next
    | .error stop next => .error stop next) = body state
  cases body state <;> rfl

theorem run_callOn (object : τ) (body : Exec τ α) (state : σ) :
    (callOn object body).run state =
      match body.run object with
      | .ok value next => .ok (value, next) state
      | .error stop _ => .error stop state := rfl

theorem run_catching (body : Exec σ α) (handler : String → Exec σ α) (state : σ) :
    (catching body handler).run state =
      match body.run state with
      | .error (.throw what) next => (handler what).run next
      | result => result := rfl

theorem run_catching_ok {body : Exec σ α} {handler : String → Exec σ α} {state next : σ}
    {value : α} (ran : body.run state = .ok value next) :
    (catching body handler).run state = .ok value next := by
  rw [run_catching, ran]

@[simp] theorem run_map (body : Exec σ α) (f : α → β) (state : σ) :
    (f <$> body).run state =
      match body.run state with
      | .ok value next => .ok (f value) next
      | .error stop next => .error stop next := by
  simp only [Functor.map, EStateM.map, EStateM.run]
  cases body state <;> rfl

@[simp] theorem run_when_true (body : Exec σ Unit) (state : σ) :
    (when true body).run state = body.run state := rfl

@[simp] theorem run_when_false (body : Exec σ Unit) (state : σ) :
    (when false body).run state = .ok () state := rfl

@[simp] theorem run_ite (condition : Prop) [Decidable condition]
    (first second : Exec σ α) (state : σ) :
    (if condition then first else second : Exec σ α).run state =
      if condition then first.run state else second.run state := by
  split <;> rfl

theorem returns_map_ok {body : Exec σ α} {state next : σ} {value : α} (f : α → β)
    (ran : body.run state = .ok value next) :
    (f <$> body : Exec σ β).returns state = some (.ok (f value), next) := by
  simp [returns, ran]

theorem returns_map_throw {body : Exec σ α} {state next : σ} {what : String} (f : α → β)
    (ran : body.run state = .error (.throw what) next) :
    (f <$> body : Exec σ β).returns state = some (.error what, next) := by
  simp [returns, ran]

end Exec

/-! A mutex as the calling chain sees it: how often the chain holds it, and
whether it may be locked again by its holder. -/

structure Mutex where
  recursive : Bool
  depth : Nat
  deriving DecidableEq, Repr

namespace Mutex

def free (recursive : Bool) : Mutex := ⟨recursive, 0⟩

def Lockable (mutex : Mutex) : Prop := mutex.recursive = true ∨ mutex.depth = 0

instance (mutex : Mutex) : Decidable mutex.Lockable :=
  inferInstanceAs (Decidable (_ ∨ _))

def enter (mutex : Mutex) : Mutex := { mutex with depth := mutex.depth + 1 }

def leave (mutex : Mutex) : Mutex := { mutex with depth := mutex.depth - 1 }

@[simp] theorem leave_enter (mutex : Mutex) : mutex.enter.leave = mutex := rfl

theorem Lockable.of_recursive {mutex : Mutex} (h : mutex.recursive = true) :
    mutex.Lockable := .inl h

end Mutex

/-- The end of a locked section: the mutex is released on return and on throw. -/
def releasing (mutex : Field σ Mutex) :
    EStateM.Result Stop σ α → EStateM.Result Stop σ α
  | .ok value next => .ok value (mutex.set (mutex.get next).leave next)
  | .error (.throw what) next =>
      .error (.throw what) (mutex.set (mutex.get next).leave next)
  | .error stop next => .error stop next

/-- A `unique_lock` for the extent of `body`.  Locking a mutex that is not
recursive while the chain holds it never returns. -/
def scopedLock (mutex : Field σ Mutex) (body : Exec σ α) : Exec σ α := fun state =>
  if (mutex.get state).Lockable then
    releasing mutex (body (mutex.set (mutex.get state).enter state))
  else .error .deadlock state

section

variable (mutex : Field σ Mutex)

@[simp] theorem releasing_ok (value : α) (next : σ) :
    releasing mutex (.ok value next) =
      .ok value (mutex.set (mutex.get next).leave next) := rfl

@[simp] theorem releasing_throw (what : String) (next : σ) :
    releasing mutex (.error (.throw what) next : EStateM.Result Stop σ α) =
      .error (.throw what) (mutex.set (mutex.get next).leave next) := rfl

@[simp] theorem releasing_deadlock (next : σ) :
    releasing mutex (.error .deadlock next : EStateM.Result Stop σ α) =
      .error .deadlock next := rfl

@[simp] theorem releasing_abort (next : σ) :
    releasing mutex (.error .abort next : EStateM.Result Stop σ α) =
      .error .abort next := rfl

theorem run_scopedLock_of_lockable (body : Exec σ α) {state : σ}
    (lockable : (mutex.get state).Lockable) :
    (scopedLock mutex body).run state =
      releasing mutex (body.run (mutex.set (mutex.get state).enter state)) :=
  if_pos lockable

theorem run_scopedLock_of_not_lockable (body : Exec σ α) {state : σ}
    (held : ¬ (mutex.get state).Lockable) :
    (scopedLock mutex body).run state = .error .deadlock state :=
  if_neg held

theorem run_scopedLock_ok {body : Exec σ α} {state next : σ} {value : α}
    (lockable : (mutex.get state).Lockable)
    (ran : body.run (mutex.set (mutex.get state).enter state) =
      .ok value (mutex.set (mutex.get next).enter next)) :
    (scopedLock mutex body).run state = .ok value next := by
  rw [run_scopedLock_of_lockable mutex body lockable, ran, releasing_ok]
  simp

theorem run_scopedLock_throw {body : Exec σ α} {state next : σ} {what : String}
    (lockable : (mutex.get state).Lockable)
    (ran : body.run (mutex.set (mutex.get state).enter state) =
      .error (.throw what) (mutex.set (mutex.get next).enter next)) :
    (scopedLock mutex body).run state = .error (.throw what) next := by
  rw [run_scopedLock_of_lockable mutex body lockable, ran, releasing_throw]
  simp

theorem run_scopedLock_read {body : Exec σ α} {state : σ} {value : α}
    (lockable : (mutex.get state).Lockable)
    (ran : body.run (mutex.set (mutex.get state).enter state) =
      .ok value (mutex.set (mutex.get state).enter state)) :
    (scopedLock mutex body).run state = .ok value state :=
  run_scopedLock_ok mutex lockable ran

end

end TestReactor
