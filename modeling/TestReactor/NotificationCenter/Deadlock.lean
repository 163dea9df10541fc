import TestReactor.NotificationCenter.Register

namespace TestReactor

namespace NotificationCenter

open Function (update)
open Locking

/-! Deadlocks around a centre.  The centre's mutex comes before those of its entries, and
only the calls that a callback makes take them the other way round. -/

def CallsOut (frames : List Frame) : Prop := ∃ id, .callback id ∈ frames.tail

/-- Under the call at the top there are only posts and their callbacks. -/
def Stacked (frames : List Frame) : Prop :=
  ∀ frame ∈ frames.tail, (∃ ids notification, frame = .walk ids notification) ∨
    ∃ id, frame = .callback id

def rank : Lock → Nat
  | .centre => 0
  | .observer _ => 1

section

variable {centre : NotificationCenter} {frames : List Frame}

theorem Stacked.below {frame : Frame} (stacked : Stacked (frame :: frames)) : Stacked frames :=
  fun other member => stacked other (List.mem_of_mem_tail member)

theorem stacked_unwound (stacked : Stacked frames) : Stacked (unwound frames) := by
  unfold unwound
  split
  · exact stacked.below
  · exact stacked

theorem Stacked.sections (stacked : Stacked frames) {next : NotificationCenter}
    {left : List Frame} (sections : Sections centre frames next left) : Stacked left := by
  cases sections with
  | calls request own =>
      intro frame member
      cases frames with
      | nil => exact absurd member List.not_mem_nil
      | cons head below =>
          rcases List.mem_cons.mp member with rfl | member
          · exact .inr (own _ rfl)
          · exact stacked frame member
  | ends id below left =>
      rcases left with rfl | rfl
      · exact stacked.below
      · exact stacked_unwound stacked.below
  | serves request below free =>
      unfold serve
      split
      case h_2 => split <;> first | exact stacked | exact stacked.below
      case h_6 => exact stacked
      all_goals exact stacked.below
  | disables observer id below => exact stacked.below
  | finishes notification below => exact stacked.below
  | notifies id ids notification below free =>
      unfold notify
      split
      · exact List.forall_mem_cons.mpr ⟨.inl ⟨_, _, rfl⟩, stacked⟩
      · exact stacked

/-- A thread that waits outside the calls of callbacks takes the mutexes in their order. -/
theorem Stacked.ordered (stacked : Stacked frames) (direct : ¬ CallsOut frames) {wanted : Lock}
    (waits : locking.wants frames = some wanted) :
    ∀ held ∈ locking.has frames, rank held < rank wanted := by
  cases frames with
  | nil => contradiction
  | cons top below =>
      have idle : ∀ frame ∈ below, frame.locks = [] := by
        intro frame member
        rcases stacked frame member with ⟨ids, notification, rfl⟩ | ⟨id, rfl⟩
        · rfl
        · exact absurd ⟨id, member⟩ direct
      have none_below : below.flatMap Frame.locks = [] := List.flatMap_eq_nil_iff.mpr idle
      intro held has
      have has : held ∈ top.locks := by simpa [locking, none_below] using has
      cases top with
      | disable observer id =>
          cases waits
          rw [List.mem_singleton.mp has]
          exact Nat.zero_lt_one
      | enter | walk => exact absurd has List.not_mem_nil
      | callback id => contradiction

end

section

variable {θ : Type} [DecidableEq θ]

theorem stacked_of_reached {turns : List (θ × Choice)} {pool : Pool θ}
    (reached : Runs.exec step (start θ) turns = some pool) (thread : θ) :
    Stacked (pool.control thread) := by
  refine Runs.exec_keeps (fun pool : Pool θ => ∀ thread, Stacked (pool.control thread))
    (fun pool turn next stacked stepped => ?_) (fun _ _ member => absurd member List.not_mem_nil)
    reached thread
  obtain ⟨shared, control, acted, rfl⟩ := Threads.step_eq_some_iff.mp stepped
  intro other
  rcases eq_or_ne other turn.1 with rfl | different
  · simpa using (stacked turn.1).sections (sections_of_act acted)
  · simpa [different] using stacked other

theorem deadlock_calls_out {turns : List (θ × Choice)} {pool : Pool θ}
    (reached : Runs.exec step (start θ) turns = some pool) {threads : Finset θ}
    (deadlocked : locking.Deadlocked pool threads) :
    ∃ thread ∈ threads, CallsOut (pool.control thread) := by
  by_contra none_calls
  refine not_deadlocked_of_ordered rank (fun thread member wanted waits => ?_) deadlocked
  exact (stacked_of_reached reached thread).ordered
    (fun calls => none_calls ⟨thread, member, calls⟩) waits

/-- A callback's thread calls the centre, another one removes its entry meanwhile. -/
def crossing (thread other : θ) (request : Request) (observer : Observer) :
    List (θ × Choice) :=
  [(thread, .call request), (other, .call (.removeObserver observer)), (other, .returns)]

variable {pool : Pool θ} {thread other : θ} {id : Nat} {below : List Frame}

theorem deadlock_of_crossing (request : Request) (different : other ≠ thread)
    (inside : pool.control thread = .callback id :: below) (outside : pool.control other = [])
    (free : pool.shared.taken .centre = false)
    (first : pool.shared.find (pool.shared.cells id) = some id) :
    ∃ next, Runs.exec step pool (crossing thread other request (pool.shared.cells id)) =
        some next ∧ locking.Deadlocked next {thread, other} := by
  let calling := update pool.control thread (.enter request :: .callback id :: below)
  let entering := update calling other [.enter (.removeObserver (pool.shared.cells id))]
  have called : step pool (thread, .call request) = some ⟨pool.shared, calling⟩ :=
    Threads.step_eq_some_iff.mpr ⟨_, _, by rw [inside]; rfl, rfl⟩
  have entered : step ⟨pool.shared, calling⟩
      (other, .call (.removeObserver (pool.shared.cells id))) = some ⟨pool.shared, entering⟩ :=
    Threads.step_eq_some_iff.mpr ⟨_, _, by simp [calling, different, outside, act], rfl⟩
  have found : step ⟨pool.shared, entering⟩ (other, .returns) =
      some ⟨pool.shared.lock .centre,
        update entering other [.disable (pool.shared.cells id) id]⟩ :=
    Threads.step_eq_some_iff.mpr ⟨_, _, by simp [entering, act, free, serve, first], rfl⟩
  refine ⟨_, by rw [crossing, Runs.exec_cons, called, Option.bind_some, Runs.exec_cons, entered,
    Option.bind_some, Runs.exec_cons, found]; rfl, ⟨thread, by simp⟩, fun each member => ?_⟩
  rcases Finset.mem_insert.mp member with rfl | member
  · refine ⟨.centre, ?_, other, by simp, ?_⟩
    · simp [entering, calling, different.symm, locking, wants]
    · simp [locking, Frame.locks]
  · cases Finset.mem_singleton.mp member
    refine ⟨.observer id, by simp [locking, wants], thread, by simp, ?_⟩
    simp [entering, calling, different.symm, locking, Frame.locks]

/-- However the threads interleave: in every deadlock some thread waits inside a call that one
of its callbacks has made; and while a callback of the first entry of its value runs, any such
call can be crossed by another thread's removal of the entry, and the two never move again. -/
theorem deadlocks_pass_through_callbacks {turns : List (θ × Choice)} {pool : Pool θ}
    (reached : Runs.exec step (start θ) turns = some pool) :
    (∀ threads, locking.Deadlocked pool threads →
      ∃ thread ∈ threads, CallsOut (pool.control thread)) ∧
    ∀ thread other id below request, other ≠ thread →
      pool.control thread = .callback id :: below → pool.control other = [] →
      pool.shared.taken .centre = false → pool.shared.find (pool.shared.cells id) = some id →
      ∃ next, Runs.exec step pool (crossing thread other request (pool.shared.cells id)) =
          some next ∧
        ∀ turns last, Runs.exec step next turns = some last →
          locking.Deadlocked last {thread, other} := by
  refine ⟨fun _ deadlocked => deadlock_calls_out reached deadlocked, ?_⟩
  intro thread other id below request different inside outside free first
  obtain ⟨next, crossed, deadlocked⟩ :=
    deadlock_of_crossing request different inside outside free first
  have sound := sound_of_reached reached
  have exclusive := Runs.exec_keeps (fun pool : Pool θ => locking.Exclusive pool)
    (fun _ _ _ exclusive stepped => exclusive.step disciplined stepped) sound.exclusive crossed
  refine ⟨next, crossed, fun turns last further => ?_⟩
  exact (Runs.exec_keeps
    (fun pool : Pool θ => locking.Exclusive pool ∧ locking.Deadlocked pool {thread, other})
    (fun _ _ _ inner stepped => ⟨inner.1.step disciplined stepped,
      inner.2.step inner.1 disciplined stepped⟩) ⟨exclusive, deadlocked⟩ further).2

end

/-- A callback that only counts the observers is crossed by the removal of its own entry. -/
theorem deadlocks_pass_through_callbacks_of_count :
    let observer := Observer.onSocket 1 .readable 0
    ∃ pool next, Runs.exec step (start Bool) (posting observer) = some pool ∧
      Runs.exec step pool (crossing false true .countObservers observer) = some next ∧
      ∀ turns last, Runs.exec step next turns = some last →
        locking.Deadlocked last {false, true} := by
  intro observer
  have ran : (Runs.exec step (start Bool) (posting observer)).map (fun pool =>
      (pool.control false, pool.control true, pool.shared.taken .centre, pool.shared.cells 0,
        pool.shared.find observer)) =
      some ([.callback 0, .walk [] (some .readable)], [], false, observer, some 0) := rfl
  obtain ⟨pool, reached, seen⟩ := Option.map_eq_some_iff.mp ran
  simp only [Prod.mk.injEq] at seen
  obtain ⟨inside, outside, free, cell, found⟩ := seen
  obtain ⟨next, crossed, deadlocked⟩ := (deadlocks_pass_through_callbacks reached).2 false true 0 _
    .countObservers (by decide) inside outside free (cell ▸ found)
  exact ⟨pool, next, reached, cell ▸ crossed, deadlocked⟩

end NotificationCenter

end TestReactor
