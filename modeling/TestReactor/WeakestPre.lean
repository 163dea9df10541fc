import TestReactor.Exec

namespace TestReactor

namespace Exec

/-! Weakest preconditions: what holds of a call when it has come to its end, by
returning a value or by stopping. -/

def ends (body : Exec σ α) (post : α → σ → Prop) (stopped : Stop → σ → Prop) (state : σ) :
    Prop :=
  match body.run state with
  | .ok value next => post value next
  | .error stop next => stopped stop next

section Ends

variable {post : α → σ → Prop} {stopped : Stop → σ → Prop} {state : σ}

theorem ends_of_ok {body : Exec σ α} {value : α} {next : σ}
    (ran : body.run state = .ok value next) :
    ends body post stopped state ↔ post value next := by
  rw [ends, ran]

theorem ends_of_error {body : Exec σ α} {stop : Stop} {next : σ}
    (ran : body.run state = .error stop next) :
    ends body post stopped state ↔ stopped stop next := by
  rw [ends, ran]

@[simp] theorem ends_pure (value : α) :
    ends (pure value) post stopped state ↔ post value state := Iff.rfl

@[simp] theorem ends_raise (stop : Stop) :
    ends (raise stop) post stopped state ↔ stopped stop state := Iff.rfl

@[simp] theorem ends_get {post : σ → σ → Prop} :
    ends get post stopped state ↔ post state state := Iff.rfl

@[simp] theorem ends_set (next : σ) {post : PUnit → σ → Prop} :
    ends (set next) post stopped state ↔ post ⟨⟩ next := Iff.rfl

@[simp] theorem ends_modify (change : σ → σ) {post : PUnit → σ → Prop} :
    ends (modify change) post stopped state ↔ post ⟨⟩ (change state) := Iff.rfl

@[simp] theorem ends_bind (body : Exec σ α) (rest : α → Exec σ β) {post : β → σ → Prop} :
    ends (body >>= rest) post stopped state ↔
      ends body (fun value => ends (rest value) post stopped) stopped state := by
  simp only [ends, EStateM.run_bind]
  cases body.run state <;> rfl

@[simp] theorem ends_map (body : Exec σ α) (f : α → β) {post : β → σ → Prop} :
    ends (f <$> body) post stopped state ↔
      ends body (fun value => post (f value)) stopped state := by
  simp only [ends, run_map]
  cases body.run state <;> rfl

@[simp] theorem ends_ite (condition : Prop) [Decidable condition] (first second : Exec σ α) :
    ends (if condition then first else second) post stopped state ↔
      if condition then ends first post stopped state else ends second post stopped state := by
  split <;> rfl

@[simp] theorem ends_when (condition : Bool) (body : Exec σ Unit) {post : Unit → σ → Prop} :
    ends (when condition body) post stopped state ↔
      if condition then ends body post stopped state else post () state := by
  cases condition <;> exact Iff.rfl

theorem ends_on (part : Field σ τ) (body : Exec τ α) :
    ends (on part body) post stopped state ↔
      ends body (fun value next => post value (part.set next state))
        (fun stop next => stopped stop (part.set next state)) (part.get state) := by
  simp only [ends, run_on]
  cases body.run (part.get state) <;> rfl

theorem ends_callOn (object : τ) (body : Exec τ α) {post : α × τ → σ → Prop} :
    ends (callOn object body) post stopped state ↔
      ends body (fun value next => post (value, next) state)
        (fun stop _ => stopped stop state) object := by
  simp only [ends, run_callOn]
  cases body.run object <;> rfl

/-- A `catch` block takes over from the state that an exception leaves. -/
theorem ends_catching (body : Exec σ α) (handler : String → Exec σ α) :
    ends (catching body handler) post stopped state ↔
      ends body post
        (fun stop next =>
          match stop with
          | .throw what => ends (handler what) post stopped next
          | _ => stopped stop next)
        state := by
  simp only [ends, run_catching]
  cases body.run state with
  | ok value next => rfl
  | error stop next => cases stop <;> rfl

/-- A section that ends by itself gives its lock back. -/
theorem ends_scopedLock (mutex : Field σ Mutex) (body : Exec σ α) :
    ends (scopedLock mutex body) post stopped state ↔
      if (mutex.get state).Lockable then
        ends body
          (fun value next => post value (mutex.set (mutex.get next).leave next))
          (fun stop next =>
            match stop with
            | .throw what => stopped (.throw what) (mutex.set (mutex.get next).leave next)
            | _ => stopped stop next)
          (mutex.set (mutex.get state).enter state)
      else stopped .deadlock state := by
  by_cases lockable : (mutex.get state).Lockable
  · rw [if_pos lockable, ends, ends, run_scopedLock_of_lockable mutex body lockable]
    cases body.run (mutex.set (mutex.get state).enter state) with
    | ok value next => rfl
    | error stop next => cases stop <;> rfl
  · rw [if_neg lockable]
    exact ends_of_error (run_scopedLock_of_not_lockable mutex body lockable)

theorem ends_iff_last {body : Exec σ α} {inner : σ → Prop} :
    ends body (fun _ => inner) (fun _ => inner) state ↔ inner (last body state) := by
  unfold ends last
  cases body.run state <;> rfl

theorem ends_mono {body : Exec σ α} {post' : α → σ → Prop} {stopped' : Stop → σ → Prop}
    (holds : ends body post stopped state)
    (weaker : ∀ value next, post value next → post' value next)
    (passed : ∀ stop next, stopped stop next → stopped' stop next) :
    ends body post' stopped' state := by
  unfold ends at holds ⊢
  cases ran : body.run state with
  | ok value next =>
      rw [ran] at holds
      exact weaker value next holds
  | error stop next =>
      rw [ran] at holds
      exact passed stop next holds

/-- The loop rule: what the body keeps, for every item, the loop keeps. -/
theorem ends_forEach {items : List ι} {body : ι → Exec σ Unit} (inner : σ → Prop)
    (start : inner state)
    (keeps : ∀ item ∈ items, ∀ middle, inner middle →
      ends (body item) (fun _ => inner) stopped middle) :
    ends (forEach items body) (fun _ => inner) stopped state := by
  induction items generalizing state with
  | nil => exact start
  | cons item rest ih =>
      rw [forEach, ends_bind]
      refine ends_mono (keeps item (by simp) state start) ?_ (fun _ _ holds => holds)
      intro _ next held
      exact ih held fun item member => keeps item (by simp [member])

end Ends

/-- `inner` holds again when the call has come to its end, whichever it is. -/
def Preserves (inner : σ → Prop) (body : Exec σ α) : Prop :=
  ∀ state, inner state → ends body (fun _ => inner) (fun _ => inner) state

section Preserves

variable {inner : σ → Prop}

theorem preserves_pure (value : α) : Preserves inner (pure value : Exec σ α) := fun _ held => held

theorem preserves_raise (stop : Stop) : Preserves inner (raise stop : Exec σ α) :=
  fun _ held => held

theorem preserves_get : Preserves inner (get : Exec σ σ) := fun _ held => held

theorem preserves_modify {change : σ → σ} (keeps : ∀ state, inner state → inner (change state)) :
    Preserves inner (modify change : Exec σ PUnit) := keeps

theorem Preserves.bind {body : Exec σ α} {rest : α → Exec σ β} (first : Preserves inner body)
    (second : ∀ value, Preserves inner (rest value)) : Preserves inner (body >>= rest) := by
  intro state held
  rw [ends_bind]
  exact ends_mono (first state held) (fun value next => second value next) fun _ _ => id

theorem preserves_read {rest : σ → Exec σ β}
    (second : ∀ state, inner state → Preserves inner (rest state)) :
    Preserves inner (get >>= rest) := fun state held => second state held state held

theorem Preserves.catching {body : Exec σ α} {handler : String → Exec σ α}
    (first : Preserves inner body) (second : ∀ what, Preserves inner (handler what)) :
    Preserves inner (catching body handler) := by
  intro state held
  rw [ends_catching]
  refine ends_mono (first state held) (fun _ _ => id) fun stop next ended => ?_
  cases stop with
  | throw what => exact second what next ended
  | blocked | deadlock | fault | abort => exact ended

theorem Preserves.ite {condition : Prop} [Decidable condition] {first second : Exec σ α}
    (yes : Preserves inner first) (no : Preserves inner second) :
    Preserves inner (if condition then first else second) := by
  split
  · exact yes
  · exact no

theorem Preserves.when {condition : Bool} {body : Exec σ Unit} (kept : Preserves inner body) :
    Preserves inner (when condition body) := kept.ite (preserves_pure ())

theorem preserves_callOn (object : τ) (body : Exec τ α) :
    Preserves inner (callOn object body : Exec σ (α × τ)) := by
  intro state held
  rw [ends_callOn, ends]
  split
  · exact held
  · exact held

theorem Preserves.scopedLock {mutex : Field σ Mutex} {body : Exec σ α}
    (free : ∀ value state, inner state → inner (mutex.set value state))
    (kept : Preserves inner body) : Preserves inner (scopedLock mutex body) := by
  intro state held
  rw [ends_scopedLock]
  split
  · refine ends_mono (kept _ (free _ _ held)) (fun _ next => free _ next) fun stop next ended => ?_
    cases stop with
    | throw what => exact free _ next ended
    | blocked | deadlock | fault | abort => exact ended
  · exact held

end Preserves

/-! A call that blocks, faults or aborts satisfies every postcondition of `wp`;
`deadlock` says what a deadlocked one satisfies, so that `True` asks what holds of
the calls that come back, and `False` also that the call does not lock itself
out. -/

def excused (deadlock : Prop) (thrown : σ → Prop) : Stop → σ → Prop
  | .throw _, next => thrown next
  | .deadlock, _ => deadlock
  | .blocked, _ => True
  | .fault, _ => True
  | .abort, _ => True

def wp (deadlock : Prop) (body : Exec σ α) (post : α → σ → Prop) (thrown : σ → Prop)
    (state : σ) : Prop :=
  ends body post (excused deadlock thrown) state

section Rules

variable {deadlock : Prop} {post : α → σ → Prop} {thrown : σ → Prop} {state : σ}

theorem wp_of_ok {body : Exec σ α} {value : α} {next : σ}
    (ran : body.run state = .ok value next) :
    wp deadlock body post thrown state ↔ post value next := ends_of_ok ran

theorem wp_of_throw {body : Exec σ α} {what : String} {next : σ}
    (ran : body.run state = .error (.throw what) next) :
    wp deadlock body post thrown state ↔ thrown next := ends_of_error ran

theorem wp_of_deadlock {body : Exec σ α} {next : σ}
    (ran : body.run state = .error .deadlock next) :
    wp deadlock body post thrown state ↔ deadlock := ends_of_error ran

@[simp] theorem wp_pure (value : α) :
    wp deadlock (pure value) post thrown state ↔ post value state := Iff.rfl

@[simp] theorem wp_raise_throw (what : String) :
    wp deadlock (raise (.throw what)) post thrown state ↔ thrown state := Iff.rfl

@[simp] theorem wp_raise_blocked :
    wp deadlock (raise .blocked : Exec σ α) post thrown state ↔ True := Iff.rfl

@[simp] theorem wp_raise_fault :
    wp deadlock (raise .fault : Exec σ α) post thrown state ↔ True := Iff.rfl

@[simp] theorem wp_raise_abort :
    wp deadlock (raise .abort : Exec σ α) post thrown state ↔ True := Iff.rfl

@[simp] theorem wp_get {post : σ → σ → Prop} :
    wp deadlock get post thrown state ↔ post state state := Iff.rfl

@[simp] theorem wp_modify (change : σ → σ) {post : PUnit → σ → Prop} :
    wp deadlock (modify change) post thrown state ↔ post ⟨⟩ (change state) := Iff.rfl

@[simp] theorem wp_bind (body : Exec σ α) (rest : α → Exec σ β) {post : β → σ → Prop} :
    wp deadlock (body >>= rest) post thrown state ↔
      wp deadlock body (fun value => wp deadlock (rest value) post thrown) thrown state :=
  ends_bind body rest

@[simp] theorem wp_map (body : Exec σ α) (f : α → β) {post : β → σ → Prop} :
    wp deadlock (f <$> body) post thrown state ↔
      wp deadlock body (fun value => post (f value)) thrown state :=
  ends_map body f

@[simp] theorem wp_ite (condition : Prop) [Decidable condition] (first second : Exec σ α) :
    wp deadlock (if condition then first else second) post thrown state ↔
      if condition then wp deadlock first post thrown state
      else wp deadlock second post thrown state :=
  ends_ite condition first second

@[simp] theorem wp_assert (condition : Bool) {post : Unit → σ → Prop} :
    wp deadlock (assert condition) post thrown state ↔
      (condition = true → post () state) := by
  cases condition with
  | true => exact ⟨fun holds _ => holds, fun holds => holds rfl⟩
  | false => exact ⟨fun _ impossible => absurd impossible (by decide), fun _ => trivial⟩

@[simp] theorem wp_when (condition : Bool) (body : Exec σ Unit) {post : Unit → σ → Prop} :
    wp deadlock (when condition body) post thrown state ↔
      if condition then wp deadlock body post thrown state else post () state :=
  ends_when condition body

theorem excused_comp (change : σ → τ) (thrown : τ → Prop) :
    (fun stop state => excused deadlock thrown stop (change state)) =
      excused deadlock fun state => thrown (change state) := by
  funext stop state
  cases stop <;> rfl

theorem wp_on (part : Field σ τ) (body : Exec τ α) :
    wp deadlock (on part body) post thrown state ↔
      wp deadlock body (fun value next => post value (part.set next state))
        (fun next => thrown (part.set next state)) (part.get state) := by
  rw [wp, ends_on, excused_comp fun next => part.set next state]
  rfl

theorem wp_callOn (object : τ) (body : Exec τ α) {post : α × τ → σ → Prop} :
    wp deadlock (callOn object body) post thrown state ↔
      wp deadlock body (fun value next => post (value, next) state)
        (fun _ => thrown state) object := by
  rw [wp, ends_callOn, excused_comp fun _ : τ => state]
  rfl

theorem wp_scopedLock (mutex : Field σ Mutex) (body : Exec σ α) :
    wp deadlock (scopedLock mutex body) post thrown state ↔
      if (mutex.get state).Lockable then
        wp deadlock body
          (fun value next => post value (mutex.set (mutex.get next).leave next))
          (fun next => thrown (mutex.set (mutex.get next).leave next))
          (mutex.set (mutex.get state).enter state)
      else deadlock := by
  rw [wp, ends_scopedLock]
  have left : (fun (stop : Stop) (next : σ) =>
      match stop with
      | .throw what =>
          excused deadlock thrown (.throw what) (mutex.set (mutex.get next).leave next)
      | _ => excused deadlock thrown stop next) =
      excused deadlock fun next => thrown (mutex.set (mutex.get next).leave next) := by
    funext stop next
    cases stop <;> rfl
  rw [left]
  rfl

theorem wp_mono {body : Exec σ α} {post' : α → σ → Prop} {thrown' : σ → Prop}
    (weaker : ∀ value next, post value next → post' value next)
    (caught : ∀ next, thrown next → thrown' next)
    (holds : wp deadlock body post thrown state) :
    wp deadlock body post' thrown' state := by
  refine ends_mono holds weaker ?_
  intro stop next passed
  cases stop with
  | throw what => exact caught next passed
  | blocked | deadlock | fault | abort => exact passed

theorem wp_returns {body : Exec σ α} {next : σ} {result : Except String α}
    (returned : body.returns state = some (result, next))
    (holds : wp deadlock body post thrown state) :
    (∃ value, result = .ok value ∧ post value next) ∨ thrown next := by
  unfold wp ends at holds
  unfold returns at returned
  cases ran : body.run state with
  | ok value last =>
      rw [ran] at holds returned
      cases returned
      exact .inl ⟨value, rfl, holds⟩
  | error stop last =>
      rw [ran] at holds returned
      cases stop with
      | throw what =>
          cases returned
          exact .inr holds
      | blocked => contradiction
      | deadlock => contradiction
      | fault => contradiction
      | abort => contradiction

theorem wp_answers {body : Exec σ α} {next : σ} {value : α}
    (returned : body.returns state = some (.ok value, next))
    (holds : wp deadlock body post thrown state) : post value next := by
  unfold wp ends at holds
  unfold returns at returned
  cases ran : body.run state with
  | ok given last =>
      rw [ran] at holds returned
      cases returned
      exact holds
  | error stop last =>
      rw [ran] at returned
      cases stop <;> cases returned

end Rules

end Exec

end TestReactor
