import Mathlib.Logic.Function.Basic
import TestReactor.Runs

namespace TestReactor

/-! Threads that share a state.  Each thread's program is cut into atomic sections;
`act` says what the next section of a thread does, and `ι` what is not up to the
thread. -/

namespace Threads

@[ext] structure Pool (θ σ κ : Type) where
  shared : σ
  control : θ → κ

variable {θ σ κ ι : Type} [DecidableEq θ] (act : σ → κ → ι → Option (σ × κ))

def step (pool : Pool θ σ κ) (turn : θ × ι) : Option (Pool θ σ κ) :=
  (act pool.shared (pool.control turn.1) turn.2).map fun result =>
    ⟨result.1, Function.update pool.control turn.1 result.2⟩

variable {act}

theorem step_eq_some_iff {pool next : Pool θ σ κ} {thread : θ} {choice : ι} :
    step act pool (thread, choice) = some next ↔
      ∃ shared control, act pool.shared (pool.control thread) choice = some (shared, control) ∧
        next = ⟨shared, Function.update pool.control thread control⟩ := by
  simp only [step, Option.map_eq_some_iff, Prod.exists]
  constructor
  · rintro ⟨shared, control, acted, rfl⟩
    exact ⟨shared, control, acted, rfl⟩
  · rintro ⟨shared, control, acted, rfl⟩
    exact ⟨shared, control, acted, rfl⟩

/-- What every section keeps of the shared state holds throughout every
interleaving. -/
theorem always_shared {inner : σ → Prop}
    (keep : ∀ shared control choice next control', inner shared →
      act shared control choice = some (next, control') → inner next)
    {pool : Pool θ σ κ} {turns : List (θ × ι)} (start : inner pool.shared) :
    Runs.Always (step act) (fun pool => inner pool.shared) pool turns := by
  induction turns generalizing pool with
  | nil => trivial
  | cons turn rest ih =>
      intro next stepped
      obtain ⟨shared, control, acted, rfl⟩ := step_eq_some_iff.mp stepped
      have kept := keep _ _ _ _ _ start acted
      exact ⟨kept, ih kept⟩

end Threads

end TestReactor
