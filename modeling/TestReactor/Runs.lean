namespace TestReactor

/-! Runs of a partial step function.  A label on which the step is undefined
ends the run: nothing is asked of the states after it. -/

namespace Runs

variable {σ ι : Type} (step : σ → ι → Option σ)

def exec (state : σ) : List ι → Option σ
  | [] => some state
  | label :: rest => (step state label).bind fun next => exec next rest

/-- `holds` is true after every step of the run. -/
def Always (holds : σ → Prop) (state : σ) : List ι → Prop
  | [] => True
  | label :: rest =>
      ∀ next, step state label = some next →
        holds next ∧ Always holds next rest

/-- `meets` is true of every step of the run, read in the state before it. -/
def Each (meets : σ → ι → Prop) (state : σ) : List ι → Prop
  | [] => True
  | label :: rest =>
      ∀ next, step state label = some next →
        meets state label ∧ Each meets next rest

/-- What `part` says of each step of the run, one after the other. -/
def collect (part : σ → ι → List α) (state : σ) : List ι → List α
  | [] => []
  | label :: rest =>
      part state label ++
        match step state label with
        | some next => collect part next rest
        | none => []

variable {step}

@[simp] theorem exec_nil (state : σ) : exec step state [] = some state := rfl

theorem exec_cons (state : σ) (label : ι) (rest : List ι) :
    exec step state (label :: rest) =
      (step state label).bind fun next => exec step next rest := rfl

theorem exec_append (state : σ) (first second : List ι) :
    exec step state (first ++ second) =
      (exec step state first).bind fun next => exec step next second := by
  induction first generalizing state with
  | nil => rfl
  | cons label rest ih =>
      rw [List.cons_append, exec_cons, exec_cons, Option.bind_assoc]
      congr 1
      funext next
      exact ih next

theorem Always.mono {first second : σ → Prop} (weaker : ∀ state, first state → second state)
    {state : σ} {labels : List ι} (always : Always step first state labels) :
    Always step second state labels := by
  induction labels generalizing state with
  | nil => trivial
  | cons label rest ih =>
      intro next stepped
      exact ⟨weaker next (always next stepped).1, ih (always next stepped).2⟩

theorem each_of_forall {meets : σ → ι → Prop} (all : ∀ state label, meets state label)
    (state : σ) (labels : List ι) : Each step meets state labels := by
  induction labels generalizing state with
  | nil => trivial
  | cons label rest ih => exact fun next _ => ⟨all state label, ih next⟩

theorem each_iff_forall {inner : σ → Prop} {meets : ι → Prop}
    (total : ∀ state label, inner state → ∃ next, step state label = some next ∧ inner next)
    {state : σ} {labels : List ι} (start : inner state) :
    Each step (fun _ label => meets label) state labels ↔ ∀ label ∈ labels, meets label := by
  induction labels generalizing state with
  | nil => simp [Each]
  | cons label rest ih =>
      obtain ⟨next, stepped, kept⟩ := total state label start
      rw [List.forall_mem_cons, ← ih kept]
      constructor
      · intro each
        exact each next stepped
      · rintro met other again
        cases stepped.symm.trans again
        exact met

/-- The invariant rule: what holds at the start and is kept by every step that
meets the condition holds throughout a run whose steps all meet it. -/
theorem Each.always {holds : σ → Prop} {meets : σ → ι → Prop}
    (keep : ∀ state label next, holds state → step state label = some next →
      meets state label → holds next)
    {state : σ} {labels : List ι} (start : holds state)
    (each : Each step meets state labels) :
    Always step holds state labels := by
  induction labels generalizing state with
  | nil => trivial
  | cons label rest ih =>
      intro next stepped
      obtain ⟨met, tail⟩ := each next stepped
      have kept := keep state label next start stepped met
      exact ⟨kept, ih kept tail⟩

theorem always_of_keeps {holds : σ → Prop}
    (keep : ∀ state label next, holds state → step state label = some next → holds next)
    {state : σ} {labels : List ι} (start : holds state) : Always step holds state labels := by
  induction labels generalizing state with
  | nil => trivial
  | cons label rest ih =>
      intro next stepped
      have kept := keep state label next start stepped
      exact ⟨kept, ih kept⟩

theorem exec_keeps (holds : σ → Prop)
    (keep : ∀ state label next, holds state → step state label = some next → holds next)
    {state last : σ} {labels : List ι} (start : holds state)
    (reached : exec step state labels = some last) : holds last := by
  induction labels generalizing state with
  | nil =>
      cases reached
      exact start
  | cons label rest ih =>
      obtain ⟨next, stepped, reached⟩ := Option.bind_eq_some_iff.mp reached
      exact ih (keep state label next start stepped) reached

/-- The simulation rule: `image` matches a step by the steps of `other` that
`labels` names, so it matches a run by their concatenation. -/
theorem exec_simulated {holds : σ → Prop} {τ κ : Type} {perform : τ → List κ → τ}
    (nil : ∀ other, perform other [] = other)
    (append : ∀ other first second,
      perform other (first ++ second) = perform (perform other first) second)
    (image : (state : σ) → holds state → τ) (labels : σ → ι → List κ)
    (allowed : ι → Prop)
    (keep : ∀ state label next, (sound : holds state) → allowed label →
      step state label = some next →
      ∃ sound' : holds next, image next sound' = perform (image state sound)
        (labels state label))
    {state last : σ} {run : List ι} (start : holds state)
    (all : ∀ label ∈ run, allowed label) (reached : exec step state run = some last) :
    ∃ sound : holds last, image last sound =
      perform (image state start) (collect step labels state run) := by
  induction run generalizing state with
  | nil =>
      cases reached
      exact ⟨start, (nil _).symm⟩
  | cons label rest ih =>
      obtain ⟨next, stepped, reached⟩ := Option.bind_eq_some_iff.mp reached
      obtain ⟨kept, matched⟩ := keep state label next start (all label (by simp)) stepped
      obtain ⟨sound, tail⟩ := ih kept (fun label member => all label (by simp [member]))
        reached
      refine ⟨sound, ?_⟩
      rw [tail, matched, ← append, collect, stepped]

/-- The simulation rule for a run whose steps all meet a condition on the state they are
taken in: `image` matches it by the run of another system that `labels` names. -/
theorem Each.simulated {holds : σ → Prop} {meets : σ → ι → Prop} {τ κ : Type}
    {other : τ → κ → Option τ} (image : (state : σ) → holds state → τ)
    (labels : σ → ι → List κ)
    (keep : ∀ state label next, (sound : holds state) → step state label = some next →
      meets state label →
      ∃ sound' : holds next,
        exec other (image state sound) (labels state label) = some (image next sound'))
    {state last : σ} {run : List ι} (start : holds state) (each : Each step meets state run)
    (reached : exec step state run = some last) :
    ∃ sound : holds last,
      exec other (image state start) (collect step labels state run) =
        some (image last sound) := by
  induction run generalizing state with
  | nil =>
      cases reached
      exact ⟨start, rfl⟩
  | cons label rest ih =>
      obtain ⟨next, stepped, reached⟩ := Option.bind_eq_some_iff.mp reached
      obtain ⟨met, tail⟩ := each next stepped
      obtain ⟨kept, matched⟩ := keep state label next start stepped met
      obtain ⟨sound, followed⟩ := ih kept tail reached
      refine ⟨sound, ?_⟩
      simp only [collect, stepped, exec_append, matched, Option.bind_some]
      exact followed

/-- What is there and what comes in, step by step, is what goes out and what is there in the
end. -/
theorem exec_balances {content : σ → List α} {enters leaves : σ → ι → List α}
    (balances : ∀ state label next, step state label = some next →
      content state ++ enters state label = leaves state label ++ content next)
    {state last : σ} {labels : List ι} (reached : exec step state labels = some last) :
    content state ++ collect step enters state labels =
      collect step leaves state labels ++ content last := by
  induction labels generalizing state with
  | nil =>
      cases reached
      simp [collect]
  | cons label rest ih =>
      obtain ⟨next, stepped, reached⟩ := Option.bind_eq_some_iff.mp reached
      simp only [collect, stepped]
      calc content state ++ (enters state label ++ collect step enters next rest)
          = leaves state label ++ (content next ++ collect step enters next rest) := by
            rw [← List.append_assoc, balances state label next stepped, List.append_assoc]
        _ = leaves state label ++ (collect step leaves next rest ++ content last) := by
            rw [ih reached]
        _ = leaves state label ++ collect step leaves next rest ++ content last := by
            rw [List.append_assoc]

/-- When a step that misses the condition breaks the property at once, the
property holds throughout exactly the runs whose steps all meet the condition.
`inner` is the invariant that carries the induction. -/
theorem always_iff_each {holds : σ → Prop} (inner : σ → Prop) {meets : σ → ι → Prop}
    (keep : ∀ state label next, inner state → step state label = some next →
      meets state label → inner next)
    (safe : ∀ state, inner state → holds state)
    (breaks : ∀ state label next, inner state → step state label = some next →
      holds next → meets state label)
    {state : σ} {labels : List ι} (start : inner state) :
    Always step holds state labels ↔ Each step meets state labels := by
  constructor
  · intro always
    induction labels generalizing state with
    | nil => trivial
    | cons label rest ih =>
        intro next stepped
        have met := breaks state label next start stepped (always next stepped).1
        exact ⟨met, ih (keep state label next start stepped met)
          (always next stepped).2⟩
  · intro each
    exact (each.always keep start).mono safe

/-- Where a step that misses the condition breaks something for good, what is seen at the end
tells whether every step of the run met it. -/
theorem holds_iff_each {holds : σ → Prop} (inner broken : σ → Prop) {meets : σ → ι → Prop}
    (keep : ∀ state label next, inner state → step state label = some next →
      meets state label → inner next)
    (breaks : ∀ state label next, inner state → step state label = some next →
      ¬ meets state label → broken next)
    (stays : ∀ state label next, broken state → step state label = some next → broken next)
    {state last : σ} {labels : List ι} (start : inner state)
    (reached : exec step state labels = some last)
    (good : inner last → holds last) (bad : broken last → ¬ holds last) :
    holds last ↔ Each step meets state labels := by
  induction labels generalizing state with
  | nil =>
      cases reached
      exact iff_of_true (good start) trivial
  | cons label rest ih =>
      obtain ⟨next, stepped, reached⟩ := Option.bind_eq_some_iff.mp reached
      by_cases met : meets state label
      · rw [ih (keep state label next start stepped met) reached]
        constructor
        · intro each other again
          cases stepped.symm.trans again
          exact ⟨met, each⟩
        · exact fun each => (each next stepped).2
      · have broke := exec_keeps broken stays (breaks state label next start stepped met) reached
        exact iff_of_false (bad broke) fun each => met (each next stepped).1

end Runs

end TestReactor
