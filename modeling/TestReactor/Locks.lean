import Mathlib.Order.Preorder.Finite
import TestReactor.Threads

namespace TestReactor

/-! Threads that take mutexes and give them back, the last taken first: who has which,
and when some threads wait for each other for good. -/

/-- Which mutexes are taken, which of them a thread has where its program stands, and
which one it waits for there. -/
structure Locking (σ κ μ : Type) where
  taken : σ → μ → Bool
  has : κ → List μ
  wants : κ → Option μ

namespace Locking

open Function (update)
open Threads (Pool)

variable {θ σ κ ι μ : Type}

structure Exclusive (locking : Locking σ κ μ) (pool : Pool θ σ κ) : Prop where
  taken : ∀ mutex, locking.taken pool.shared mutex = true ↔
    ∃ thread, mutex ∈ locking.has (pool.control thread)
  once : ∀ thread, (locking.has (pool.control thread)).Nodup
  sole : ∀ {mutex thread other}, mutex ∈ locking.has (pool.control thread) →
    mutex ∈ locking.has (pool.control other) → other = thread

/-- Each of the threads waits for a mutex that one of them has. -/
structure Deadlocked (locking : Locking σ κ μ) (pool : Pool θ σ κ) (threads : Finset θ) :
    Prop where
  nonempty : threads.Nonempty
  waits : ∀ thread ∈ threads, ∃ mutex, locking.wants (pool.control thread) = some mutex ∧
    ∃ other ∈ threads, mutex ∈ locking.has (pool.control other)

variable {locking : Locking σ κ μ} {pool : Pool θ σ κ} {threads : Finset θ} {thread : θ}
  {mutex : μ}

theorem Exclusive.free (exclusive : locking.Exclusive pool)
    (free : locking.taken pool.shared mutex = false) (thread : θ) :
    mutex ∉ locking.has (pool.control thread) := by
  intro member
  rw [(exclusive.taken mutex).mpr ⟨thread, member⟩] at free
  contradiction

/-- Threads that take their mutexes in the order of some rank are in no deadlock. -/
theorem not_deadlocked_of_ordered {α : Type} [Preorder α] (rank : μ → α)
    (ordered : ∀ thread ∈ threads, ∀ wanted,
      locking.wants (pool.control thread) = some wanted →
      ∀ held ∈ locking.has (pool.control thread), rank held < rank wanted) :
    ¬ locking.Deadlocked pool threads := by
  intro deadlocked
  choose wanted wants other among has using deadlocked.waits
  obtain ⟨thread, -, maximal⟩ := Finset.exists_maximalFor
    (fun thread : threads => rank (wanted thread thread.2)) threads.attach
    (Finset.attach_nonempty_iff.mpr deadlocked.nonempty)
  -- The holder of what the highest one waits for waits for something higher.
  have above := ordered _ (among thread thread.2) _ (wants _ (among thread thread.2)) _
    (has thread thread.2)
  exact absurd (maximal (j := ⟨_, among thread thread.2⟩) (Finset.mem_attach _ _) above.le)
    (not_le_of_gt above)

variable [DecidableEq θ]

theorem Exclusive.nothing (exclusive : locking.Exclusive pool) {shared : σ} {control : κ}
    (taken : locking.taken shared = locking.taken pool.shared)
    (has : locking.has control = locking.has (pool.control thread)) :
    locking.Exclusive ⟨shared, update pool.control thread control⟩ := by
  have same (other : θ) : locking.has (update pool.control thread control other) =
      locking.has (pool.control other) := by
    rcases eq_or_ne other thread with rfl | different
    · rw [Function.update_self, has]
    · rw [Function.update_of_ne different]
  refine ⟨fun mutex => ?_, fun other => ?_, fun first second => ?_⟩
  · simp only [taken, same]
    exact exclusive.taken mutex
  · simpa only [same] using exclusive.once other
  · simp only [same] at first second
    exact exclusive.sole first second

variable [DecidableEq μ]

inductive Handles (locking : Locking σ κ μ) (shared : σ) (control : κ) (shared' : σ)
    (control' : κ) : Prop
  | nothing (taken : locking.taken shared' = locking.taken shared)
      (has : locking.has control' = locking.has control)
  | takes (mutex : μ) (free : locking.taken shared mutex = false)
      (taken : locking.taken shared' = update (locking.taken shared) mutex true)
      (has : locking.has control' = mutex :: locking.has control)
  | gives (mutex : μ)
      (taken : locking.taken shared' = update (locking.taken shared) mutex false)
      (has : locking.has control = mutex :: locking.has control')

/-- A mutex that is taken makes those wait who want it. -/
structure Disciplined (locking : Locking σ κ μ) (act : σ → κ → ι → Option (σ × κ)) : Prop where
  handles : ∀ {shared control choice shared' control'},
    act shared control choice = some (shared', control') →
      locking.Handles shared control shared' control'
  waits : ∀ {shared control mutex}, locking.wants control = some mutex →
    locking.taken shared mutex = true → ∀ choice, act shared control choice = none

variable {act : σ → κ → ι → Option (σ × κ)}

theorem Exclusive.takes (exclusive : locking.Exclusive pool) {shared : σ} {control : κ}
    (free : locking.taken pool.shared mutex = false)
    (taken : locking.taken shared = update (locking.taken pool.shared) mutex true)
    (has : locking.has control = mutex :: locking.has (pool.control thread)) :
    locking.Exclusive ⟨shared, update pool.control thread control⟩ := by
  have lacks := exclusive.free free
  have mem_iff (other : θ) (held : μ) :
      held ∈ locking.has (update pool.control thread control other) ↔
        (other = thread ∧ held = mutex) ∨ held ∈ locking.has (pool.control other) := by
    rcases eq_or_ne other thread with rfl | different
    · simp [has]
    · simp [different]
  refine ⟨fun held => ?_, fun other => ?_, fun {held first second} one two => ?_⟩
  · simp only [taken, mem_iff]
    rcases eq_or_ne held mutex with rfl | different
    · simp
    · simpa [different] using exclusive.taken held
  · rcases eq_or_ne other thread with rfl | different
    · simpa [has] using ⟨lacks other, exclusive.once other⟩
    · simpa [different] using exclusive.once other
  · simp only [mem_iff] at one two
    rcases one with ⟨rfl, rfl⟩ | one
    · rcases two with ⟨rfl, -⟩ | two
      · rfl
      · exact absurd two (lacks second)
    · rcases two with ⟨rfl, rfl⟩ | two
      · exact absurd one (lacks first)
      · exact exclusive.sole one two

theorem Exclusive.gives (exclusive : locking.Exclusive pool) {shared : σ} {control : κ}
    (taken : locking.taken shared = update (locking.taken pool.shared) mutex false)
    (has : locking.has (pool.control thread) = mutex :: locking.has control) :
    locking.Exclusive ⟨shared, update pool.control thread control⟩ := by
  have once := exclusive.once thread
  have owned : mutex ∈ locking.has (pool.control thread) := has ▸ List.mem_cons_self
  rw [has, List.nodup_cons] at once
  have mem_iff (other : θ) (held : μ) :
      held ∈ locking.has (update pool.control thread control other) ↔
        held ≠ mutex ∧ held ∈ locking.has (pool.control other) := by
    rcases eq_or_ne other thread with rfl | different
    · rw [Function.update_self, has, List.mem_cons]
      constructor
      · intro member
        exact ⟨fun same => once.1 (same ▸ member), .inr member⟩
      · rintro ⟨apart, rfl | member⟩
        · contradiction
        · exact member
    · rw [Function.update_of_ne different]
      refine ⟨fun member => ⟨?_, member⟩, And.right⟩
      rintro rfl
      exact different (exclusive.sole owned member)
  refine ⟨fun held => ?_, fun other => ?_, fun one two => ?_⟩
  · simp only [taken, mem_iff]
    rcases eq_or_ne held mutex with rfl | different
    · simp
    · simpa [different] using exclusive.taken held
  · rcases eq_or_ne other thread with rfl | different
    · simpa using once.2
    · simpa [different] using exclusive.once other
  · simp only [mem_iff] at one two
    exact exclusive.sole one.2 two.2

theorem Exclusive.step (exclusive : locking.Exclusive pool)
    (disciplined : locking.Disciplined act) {turn : θ × ι} {next : Pool θ σ κ}
    (stepped : Threads.step act pool turn = some next) : locking.Exclusive next := by
  obtain ⟨shared, control, acted, rfl⟩ := Threads.step_eq_some_iff.mp stepped
  cases disciplined.handles acted with
  | nothing taken has => exact exclusive.nothing taken has
  | takes mutex free taken has => exact exclusive.takes free taken has
  | gives mutex taken has => exact exclusive.gives taken has

theorem Deadlocked.step (deadlocked : locking.Deadlocked pool threads)
    (exclusive : locking.Exclusive pool) (disciplined : locking.Disciplined act)
    {turn : θ × ι} {next : Pool θ σ κ} (stepped : Threads.step act pool turn = some next) :
    locking.Deadlocked next threads := by
  obtain ⟨shared, control, acted, rfl⟩ := Threads.step_eq_some_iff.mp stepped
  have apart : ∀ thread ∈ threads, thread ≠ turn.1 := by
    rintro thread member rfl
    obtain ⟨mutex, wants, other, -, has⟩ := deadlocked.waits turn.1 member
    have taken := (exclusive.taken mutex).mpr ⟨other, has⟩
    rw [disciplined.waits wants taken] at acted
    contradiction
  refine ⟨deadlocked.nonempty, fun thread member => ?_⟩
  obtain ⟨mutex, wants, other, among, has⟩ := deadlocked.waits thread member
  refine ⟨mutex, ?_, other, among, ?_⟩
  · simpa only [Function.update_of_ne (apart thread member)] using wants
  · simpa only [Function.update_of_ne (apart other among)] using has

end Locking

end TestReactor
