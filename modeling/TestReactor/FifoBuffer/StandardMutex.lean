import TestReactor.FifoBuffer.Invariant
import TestReactor.FifoBuffer.LockDiscipline

namespace TestReactor

open Exec (wp)

/-! What runs come to when the mutex is the one that the source declares: a call that reaches
its second lock waits for itself, and only the others come back. -/

namespace Buffer

variable {deadlock : Prop} {thrown : Buffer T → Prop} {buffer : Buffer T}

theorem wp_load_within (start count : Nat) {post : List T → Buffer T → Prop}
    (rest : ∀ data, (∀ element ∈ data, element ∈ buffer.cells) → post data buffer) :
    wp deadlock (load start count) post thrown buffer := by
  simp only [load, Exec.wp_bind, Exec.wp_get, Exec.wp_ite, Exec.wp_pure,
    Exec.wp_raise_fault]
  split
  · exact rest [] (by simp)
  · split
    · exact rest _ fun _ => Cells.mem_of_mem_slice
    · trivial

variable [Inhabited T]

/-- What is in `next` was in `buffer` or came with a new array. -/
def Retains (buffer next : Buffer T) : Prop :=
  ∀ element ∈ next.cells, element ∈ buffer.cells ∨ element = default

theorem Retains.refl (buffer : Buffer T) : Retains buffer buffer := fun _ => .inl

theorem Retains.trans {first second third : Buffer T} (before : Retains first second)
    (after : Retains second third) : Retains first third :=
  fun element member => (after element member).elim (before element) .inr

theorem wp_move_retains (target source count : Nat) {post : Unit → Buffer T → Prop}
    (rest : ∀ next : Buffer T, Retains buffer next → post () next) :
    wp deadlock (move target source count) post thrown buffer := by
  rw [move, Exec.wp_bind]
  refine wp_load_within _ _ fun data within => ?_
  simp only [store, Exec.wp_bind, Exec.wp_get, Exec.wp_ite, Exec.wp_pure, Exec.wp_raise_fault]
  split
  · exact rest buffer (.refl buffer)
  · split
    · refine rest _ fun element member => .inl ?_
      exact (Cells.mem_of_mem_overwrite member).elim (within element) id
    · trivial

theorem retains_newArray {buffer : Buffer T} {data : List T} (capacity : Nat)
    (within : ∀ element ∈ data, element ∈ buffer.cells) :
    ∀ element ∈ Cells.overwrite (newArray capacity) 0 data,
      element ∈ buffer.cells ∨ element = default := by
  intro element member
  obtain copied | fresh := Cells.mem_of_mem_overwrite member
  · exact .inl (within element copied)
  · exact .inr (List.eq_of_mem_replicate fresh)

theorem wp_resize_retains (newCapacity : Nat) (preserveContent : Bool)
    {post : Unit → Buffer T → Prop} (refused : thrown buffer)
    (rest : ∀ next : Buffer T, Retains buffer next → post () next) :
    wp deadlock (resize newCapacity preserveContent) post thrown buffer := by
  simp only [resize, Exec.wp_bind, Exec.wp_get, Exec.wp_ite, Exec.wp_assert,
    Exec.wp_raise_throw, Exec.wp_modify]
  split
  · exact refused
  · intro _
    split
    · simp only [Exec.wp_bind, Exec.wp_modify, Exec.wp_pure]
      split
      · exact wp_load_within _ _ fun data within => rest _ (retains_newArray _ within)
      · exact rest _ (retains_newArray _ (by simp))
    · exact rest _ (.refl buffer)

end Buffer

namespace BasicFIFOBuffer

section

variable {fifo : State T} {thrown : State T → Prop}

/-! A lock that is held is never taken again: nothing is asked of what follows. -/

theorem not_lockable_entered (free : fifo.mutex = Mutex.free false) :
    ¬ fifo.entered.mutex.Lockable := by
  simp [free, Mutex.free, Mutex.Lockable, Mutex.enter]

theorem wp_locked_again {body : Method T α} {post : α → State T → Prop}
    (held : ¬ fifo.mutex.Lockable) : wp True (locked body) post thrown fifo :=
  (Exec.wp_of_deadlock (run_locked_of_held held)).mpr trivial

theorem wp_makeRoom_again (held : ¬ fifo.mutex.Lockable) (length : Nat)
    {post : Unit → State T → Prop} (rest : post () fifo) :
    wp True (makeRoom length) post thrown fifo := by
  simp only [makeRoom, Exec.wp_bind, Exec.wp_get, Exec.wp_when]
  split
  · exact wp_locked_again held
  · exact rest

theorem wp_putBehind_again (held : ¬ fifo.mutex.Lockable) (data : List T)
    {post : Unit → State T → Prop} : wp True (putBehind data) post thrown fifo := by
  rw [putBehind, Exec.wp_bind]
  exact wp_locked_again held

end

variable [Inhabited T] {fifo : State T}

/-- `next` has the mutex as `fifo` has it, and no element that was not there. -/
structure Idle (fifo next : State T) : Prop where
  mutex : next.mutex = fifo.mutex
  cells : fifo.buffer.Retains next.buffer

theorem Idle.refl (fifo : State T) : Idle fifo fifo := ⟨rfl, .refl fifo.buffer⟩

theorem Idle.trans {first second third : State T} (before : Idle first second)
    (after : Idle second third) : Idle first third :=
  ⟨after.mutex.trans before.mutex, before.cells.trans after.cells⟩

/-- A call that comes back has stored nothing, and what it gives is as `gives` says. -/
abbrev Idles (body : Method T α) (gives : α → Prop) (fifo : State T) : Prop :=
  wp True body (fun value next => gives value ∧ Idle fifo next) (Idle fifo) fifo

theorem idles_locked {body : Method T α} {gives : α → Prop}
    (inner : Idles body gives fifo.entered) : Idles (locked body) gives fifo := by
  have left (next : State T) (idle : Idle fifo.entered next) :
      Idle fifo { next with mutex := next.mutex.leave } :=
    ⟨congrArg Mutex.leave idle.mutex, idle.cells⟩
  exact wp_locked (.inr trivial)
    (Exec.wp_mono (fun _ next idle => ⟨idle.1, left next idle.2⟩) left inner)

/-! Operation by operation, where the mutex is not re-entrant. -/

theorem idles_write (once : ¬ fifo.entered.mutex.Lockable) (data : List T) :
    Idles (write data) (fun count => count = 0) fifo := by
  rw [write]
  split
  · exact ⟨rfl, .refl fifo⟩
  · apply idles_locked
    simp only [Exec.wp_bind, Exec.wp_get, Exec.wp_ite, Exec.wp_pure]
    split
    · exact ⟨trivial, .refl _⟩
    · refine wp_makeRoom_again once _ ?_
      rw [Exec.wp_bind, Exec.wp_get, Exec.wp_bind]
      exact wp_putBehind_again once _

theorem idles_copy (once : ¬ fifo.entered.mutex.Lockable) (data : List T) :
    Idles (copy data) (fun _ => data = []) fifo := by
  rw [copy]
  split
  · rename_i empty
    exact ⟨List.length_eq_zero_iff.mp empty.symm, .refl fifo⟩
  · apply idles_locked
    simp only [checkRoom, Exec.wp_bind, Exec.wp_get, Exec.wp_ite, Exec.wp_pure,
      Exec.wp_raise_throw]
    split
    · exact .refl _
    · split
      · exact .refl _
      · exact wp_putBehind_again once _

theorem idles_advance (once : ¬ fifo.entered.mutex.Lockable) (length : Nat) :
    Idles (advance length) (fun _ => True) fifo := by
  apply idles_locked
  simp only [checkRoom, Exec.wp_bind, Exec.wp_get, Exec.wp_ite, Exec.wp_pure,
    Exec.wp_raise_throw]
  split
  · exact .refl _
  · split
    · exact .refl _
    · refine wp_makeRoom_again once _ ?_
      rw [Exec.wp_bind, Exec.wp_get, Exec.wp_bind, Exec.wp_modify, wp_notifyIfOn]
      exact ⟨trivial, rfl, .refl _⟩

theorem idles_read (once : ¬ fifo.entered.mutex.Lockable) (length : Nat) :
    Idles (read length) (fun given => given.1 = 0) fifo := by
  rw [read]
  split
  · exact ⟨rfl, .refl fifo⟩
  · rename_i positive
    apply idles_locked
    simp only [Exec.wp_bind, Exec.wp_get, Exec.wp_ite, Exec.wp_pure]
    split
    · exact ⟨trivial, .refl _⟩
    · rw [peek, if_neg positive]
      exact wp_locked_again once

theorem idles_readBuffer (once : ¬ fifo.entered.mutex.Lockable) (target : Buffer T) (length : Nat) :
    Idles (readBuffer target length) (fun given => given.1 = 0) fifo := by
  apply idles_locked
  simp only [Exec.wp_bind, Exec.wp_get, Exec.wp_ite, Exec.wp_pure]
  split
  · exact ⟨trivial, .refl _⟩
  · exact wp_locked_again once

theorem idles_peekBuffer (once : ¬ fifo.entered.mutex.Lockable) (target : Buffer T) (length : Nat) :
    Idles (peekBuffer target length) (fun given => given.1 = 0) fifo := by
  apply idles_locked
  simp only [Exec.wp_bind, Exec.wp_get, Exec.wp_ite, Exec.wp_pure]
  split
  · exact ⟨trivial, .refl _⟩
  · rename_i readable
    have bounds := clampedOrAll_bounds fifo.entered length
      (used_of_readable (by simpa using readable))
    rw [Exec.wp_callOn]
    refine Buffer.wp_resize_retains _ _ (.refl _) fun resized _ => ?_
    rw [Exec.wp_bind, peek, if_neg (by omega)]
    exact wp_locked_again once

theorem idles_next (once : ¬ fifo.entered.mutex.Lockable) : Idles next (fun _ => True) fifo := by
  apply idles_locked
  rw [Idles, Exec.wp_bind]
  exact wp_locked_again once

theorem idles_fill (once : ¬ fifo.entered.mutex.Lockable) (data : List T) :
    Idles (fill data) (fun _ => data = []) fifo := by
  rw [fill]
  simp only [Exec.wp_bind, Exec.wp_get, Exec.wp_ite, Exec.wp_raise_fault]
  split
  · trivial
  · refine wp_locked (.inr trivial) ?_
    rw [Exec.wp_bind]
    exact wp_locked_again once

theorem idles_begin : Idles begin (fun _ => True) fifo := by
  apply idles_locked
  simp only [Exec.wp_bind, Exec.wp_get, Exec.wp_when, Exec.wp_pure]
  split
  · rw [compact, Exec.wp_bind, Exec.wp_get, Exec.wp_bind, Exec.wp_on]
    exact Buffer.wp_move_retains _ _ _ fun next retains => ⟨trivial, rfl, retains⟩
  · exact ⟨trivial, .refl _⟩

theorem idles_resize (newSize : Nat) (preserveContent : Bool) :
    Idles (resize newSize preserveContent) (fun _ => True) fifo := by
  apply idles_locked
  simp only [Exec.wp_bind, Exec.wp_get, Exec.wp_ite, Exec.wp_raise_throw]
  split
  · exact .refl _
  · rw [Exec.wp_on]
    refine Buffer.wp_resize_retains _ _ (.refl _) fun next retains => ?_
    rw [Exec.wp_bind, Exec.wp_when]
    split
    · rw [Exec.wp_modify, wp_notifyIfOn]
      exact ⟨trivial, rfl, retains⟩
    · rw [wp_notifyIfOn]
      exact ⟨trivial, rfl, retains⟩

theorem idles_peek (length : Nat) : Idles (peek length) (fun _ => True) fifo := by
  rw [peek]
  split
  · exact ⟨trivial, .refl fifo⟩
  · apply idles_locked
    simp only [Exec.wp_bind, Exec.wp_get, Exec.wp_ite, Exec.wp_pure]
    split
    · exact ⟨trivial, .refl _⟩
    · exact wp_on_load _ _ fun _ _ => ⟨trivial, .refl _⟩

theorem idles_subscript (index : Nat) : Idles (subscript index) (fun _ => True) fifo := by
  apply idles_locked
  simp only [Exec.wp_bind, Exec.wp_get, Exec.wp_ite, Exec.wp_raise_throw]
  split
  · exact .refl _
  · rw [Exec.wp_assert]
    intro _
    split
    · exact ⟨trivial, .refl _⟩
    · trivial

/-- The calls that change no cell and come back wherever they get the mutex. -/
theorem idles_of_ok {body : Method T Unit} {next : State T}
    (ran : fifo.mutex.Lockable → (locked body).run fifo = .ok () next) (idle : Idle fifo next) :
    Idles (locked body) (fun _ => True) fifo := by
  by_cases lockable : fifo.mutex.Lockable
  · exact (Exec.wp_of_ok (ran lockable)).mpr ⟨trivial, idle⟩
  · exact wp_locked_again lockable

theorem idles_drain (length : Nat) : Idles (drain length) (fun _ => True) fifo :=
  idles_of_ok (run_drain length) ⟨rfl, .refl _⟩

theorem idles_setError (error : Bool) : Idles (setError error) (fun _ => True) fifo := by
  cases error with
  | true => exact idles_of_ok run_setError_true ⟨rfl, .refl _⟩
  | false => exact idles_of_ok run_setError_false ⟨rfl, .refl _⟩

theorem idles_setEOF (eof : Bool) : Idles (setEOF eof) (fun _ => True) fifo :=
  idles_of_ok (run_setEOF eof) ⟨rfl, .refl _⟩

/-- Whether a call that gave `reply` stored an element of its caller, or was to read or to fill
a buffer and handed one out. -/
def Op.Passes : Op T → Reply T → Prop
  | .write _, .count length | .writeBuffer _ _, .count length => 0 < length
  | .copy data, .done | .fill data, .done => data ≠ []
  | .read _, .elements length _ => 0 < length
  | .readBuffer _ _, .filled length _ | .peekBuffer _ _, .filled length _ => 0 < length
  | _, _ => False

theorem idles_map {body : Method T α} {gives : α → Prop} {replies : Reply T → Prop}
    (reply : α → Reply T) (weaker : ∀ value, gives value → replies (reply value))
    (idles : Idles body gives fifo) : Idles (reply <$> body) replies fifo := by
  rw [Idles, Exec.wp_map]
  exact Exec.wp_mono (fun value _ idle => ⟨weaker value idle.1, idle.2⟩) (fun _ => id) idles

theorem idles_op (once : ¬ fifo.entered.mutex.Lockable) (op : Op T) :
    Idles op.run (fun reply => ¬ op.Passes reply) fifo := by
  have none {count : Nat} (zero : count = 0) : ¬ 0 < count := by omega
  cases op with
  | write data => exact idles_map _ (fun _ => none) (idles_write once data)
  | writeBuffer source length =>
      rw [Op.run, writeBuffer_eq]
      exact idles_map _ (fun _ => none) (idles_write once _)
  | copy data => exact idles_map _ (fun _ => not_not_intro) (idles_copy once data)
  | fill data => exact idles_map _ (fun _ => not_not_intro) (idles_fill once data)
  | advance length => exact idles_map _ (fun _ _ => id) (idles_advance once length)
  | read length => exact idles_map _ (fun _ => none) (idles_read once length)
  | readBuffer target length =>
      exact idles_map _ (fun _ => none) (idles_readBuffer once target.val length)
  | peek length => exact idles_map _ (fun _ _ => id) (idles_peek length)
  | peekBuffer target length =>
      exact idles_map _ (fun _ => none) (idles_peekBuffer once target.val length)
  | drain length => exact idles_map _ (fun _ _ => id) (idles_drain length)
  | begin => exact idles_map _ (fun _ _ => id) idles_begin
  | next => exact idles_map _ (fun _ _ => id) (idles_next once)
  | setError error => exact idles_map _ (fun _ _ => id) (idles_setError error)
  | setEOF eof => exact idles_map _ (fun _ _ => id) (idles_setEOF eof)
  | resize newSize preserveContent =>
      exact idles_map _ (fun _ _ => id) (idles_resize newSize preserveContent)
  | subscript index => exact idles_map _ (fun _ _ => id) (idles_subscript index)

/-! Whole runs. -/

theorem idle_step {next : State T} {op : Op T} (free : fifo.mutex = Mutex.free false)
    (stepped : step fifo op = some next) : Idle fifo next := by
  obtain ⟨⟨result, last⟩, returned, rfl⟩ := Option.map_eq_some_iff.mp stepped
  obtain ⟨_, _, _, idle⟩ | idle :=
    Exec.wp_returns returned (idles_op (not_lockable_entered free) op)
  · exact idle
  · exact idle

/-- With the mutex that the source declares, a run of calls that come back brings no element
into the storage, and no call that comes back after it stores an element or reads one: what
there was can be looked at, moved to the front and drained. -/
theorem nothing_passes_standard_mutex (construction : Construction T) (notify : Bool)
    (ops : List (Op T)) {fifo : State T}
    (reached : Runs.exec step (construction.build false notify) ops = some fifo) :
    (construction.build false notify).buffer.Retains fifo.buffer ∧
      ∀ (op : Op T) (reply : Reply T) (next : State T),
        op.run.returns fifo = some (.ok reply, next) → ¬ op.Passes reply := by
  have start : (construction.build false notify).mutex = Mutex.free false := by
    cases construction <;> rfl
  have idle : Idle (construction.build false notify) fifo :=
    Runs.exec_keeps (Idle (construction.build false notify))
      (fun middle op next idle stepped =>
        idle.trans (idle_step (idle.mutex.trans start) stepped))
      (.refl _) reached
  refine ⟨idle.cells, fun op reply next returned => ?_⟩
  have once := not_lockable_entered (idle.mutex.trans start)
  exact (Exec.wp_answers returned (idles_op once op)).1

/-- `advance` makes two cells that lie behind the content part of it. -/
theorem nothing_passes_standard_mutex_advanced :
    ∃ fifo : State UInt8,
      Runs.exec step ((Construction.ofCopy [(1 : UInt8), 2, 3]).build false false)
        [.drain 1, .begin, .resize 8 true, .advance 2] = some fifo ∧
      fifo.content = [2, 3, 3, 0] ∧
      ∀ element ∈ fifo.buffer.cells, element ∈ [(1 : UInt8), 2, 3] ∨ element = default := by
  obtain ⟨fifo, reached, content⟩ : ∃ fifo,
      Runs.exec step ((Construction.ofCopy [(1 : UInt8), 2, 3]).build false false)
        [.drain 1, .begin, .resize 8 true, .advance 2] = some fifo ∧
      fifo.content = [2, 3, 3, 0] := ⟨_, rfl, rfl⟩
  exact ⟨fifo, reached, content, (nothing_passes_standard_mutex _ _ _ reached).1⟩

end BasicFIFOBuffer

end TestReactor
