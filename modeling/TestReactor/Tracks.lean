import TestReactor.Exec

namespace TestReactor

namespace Exec

/-! Calls on a state that do, on a part of it, what other calls do on that part alone. -/

variable {σ τ α β ι : Type}

/-- What is seen of a result when only a part of the state is seen. -/
def seen (view : σ → τ) : EStateM.Result Stop σ α → EStateM.Result Stop τ α
  | .ok value next => .ok value (view next)
  | .error stop next => .error stop (view next)

def Tracks (view : σ → τ) (body : Exec σ α) (inner : Exec τ α) : Prop :=
  ∀ state, seen view (body.run state) = inner.run (view state)

variable {view : σ → τ}

theorem tracks_pure (value : α) : Tracks view (pure value) (pure value) := fun _ => rfl

theorem tracks_on (part : Field σ τ) (body : Exec τ α) :
    Tracks part.get (on part body) body := by
  intro state
  rw [run_on]
  cases body.run (part.get state) <;> simp [seen]

theorem Tracks.bind {body : Exec σ α} {inner : Exec τ α} {rest : α → Exec σ β}
    {after : α → Exec τ β} (tracks : Tracks view body inner)
    (then_ : ∀ value, Tracks view (rest value) (after value)) :
    Tracks view (body >>= rest) (inner >>= after) := by
  intro state
  rw [EStateM.run_bind, EStateM.run_bind, ← tracks state]
  cases body.run state with
  | ok value next => exact then_ value next
  | error stop next => rfl

/-- A call may go by what it reads in the part. -/
theorem tracks_get {rest : σ → Exec σ β} {after : τ → Exec τ β}
    (then_ : ∀ state, Tracks view (rest state) (after (view state))) :
    Tracks view (get >>= rest) (get >>= after) := by
  intro state
  exact then_ state state

theorem Tracks.catching {body : Exec σ α} {inner : Exec τ α} {handler : String → Exec σ α}
    {after : String → Exec τ α} (tracks : Tracks view body inner)
    (caught : ∀ what, Tracks view (handler what) (after what)) :
    Tracks view (catching body handler) (catching inner after) := by
  intro state
  rw [run_catching, run_catching, ← tracks state]
  cases body.run state with
  | ok value next => rfl
  | error stop next =>
      cases stop with
      | throw what => exact caught what next
      | blocked | deadlock | fault | abort => rfl

theorem Tracks.map {body : Exec σ α} {inner : Exec τ α} (tracks : Tracks view body inner)
    (f : α → β) : Tracks view (f <$> body) (f <$> inner) := by
  intro state
  rw [run_map, run_map, ← tracks state]
  cases body.run state <;> rfl

theorem Tracks.ite {condition : Prop} [Decidable condition] {first second : Exec σ α}
    {one other : Exec τ α} (yes : Tracks view first one) (no : Tracks view second other) :
    Tracks view (if condition then first else second) (if condition then one else other) := by
  split
  · exact yes
  · exact no

theorem Tracks.when {body : Exec σ Unit} {inner : Exec τ Unit} (tracks : Tracks view body inner)
    (condition : Bool) : Tracks view (when condition body) (when condition inner) := by
  cases condition with
  | true => exact tracks
  | false => exact tracks_pure ()

theorem tracks_forEach {body : ι → Exec σ Unit} {inner : ι → Exec τ Unit}
    (tracks : ∀ item, Tracks view (body item) (inner item)) (items : List ι) :
    Tracks view (forEach items body) (forEach items inner) := by
  induction items with
  | nil => exact tracks_pure ()
  | cons item rest ih => exact (tracks item).bind fun _ => ih

end Exec

end TestReactor
