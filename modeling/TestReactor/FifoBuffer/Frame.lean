import TestReactor.FifoBuffer.Operation
import TestReactor.WeakestPre

namespace TestReactor

/-! What the methods of a buffer do to its size, wherever its cells are. -/

namespace Buffer

open Exec (wp)

variable {deadlock : Prop} {thrown : Buffer T → Prop} {buffer : Buffer T}

theorem wp_load (start count : Nat) {post : List T → Buffer T → Prop}
    (rest : ∀ data, data.length = count → post data buffer) :
    wp deadlock (load start count) post thrown buffer := by
  simp only [load, Exec.wp_bind, Exec.wp_get, Exec.wp_ite, Exec.wp_pure,
    Exec.wp_raise_fault]
  split
  · rename_i zero
    exact rest [] zero.symm
  · split
    · rename_i inside
      exact rest _ (Cells.length_slice inside)
    · trivial

theorem wp_store (start : Nat) (data : List T) {post : Unit → Buffer T → Prop}
    (rest : ∀ next : Buffer T, next.used = buffer.used → post () next) :
    wp deadlock (store start data) post thrown buffer := by
  simp only [store, Exec.wp_bind, Exec.wp_get, Exec.wp_ite, Exec.wp_pure,
    Exec.wp_raise_fault]
  split
  · exact rest buffer rfl
  · split
    · exact rest _ rfl
    · trivial

theorem wp_move (target source count : Nat) {post : Unit → Buffer T → Prop}
    (rest : ∀ next : Buffer T, next.used = buffer.used → post () next) :
    wp deadlock (move target source count) post thrown buffer := by
  rw [move, Exec.wp_bind]
  exact wp_load _ _ fun data _ => wp_store _ _ rest

theorem wp_resize [Inhabited T] (newCapacity : Nat) (preserveContent : Bool)
    {post : Unit → Buffer T → Prop}
    (refused : buffer.ownMem = false → thrown buffer)
    (rest : ∀ next : Buffer T, buffer.ownMem = true → 0 < newCapacity →
      next.used = newCapacity → post () next) :
    wp deadlock (resize newCapacity preserveContent) post thrown buffer := by
  simp only [resize, Exec.wp_bind, Exec.wp_get, Exec.wp_ite, Exec.wp_assert,
    Exec.wp_raise_throw, Exec.wp_modify, decide_eq_true_eq]
  cases owned : buffer.ownMem with
  | false => exact refused owned
  | true =>
      simp only [Bool.not_true, Bool.false_eq_true, if_false]
      intro positive
      split
      · simp only [Exec.wp_bind, Exec.wp_modify, Exec.wp_pure]
        split
        · exact wp_load _ _ fun data _ => rest _ owned positive rfl
        · exact rest _ owned positive rfl
      · exact rest _ owned positive rfl

end Buffer

namespace BasicFIFOBuffer

open Exec (wp)

/-- `next` has the size and the count given and is otherwise `fifo`, but for
where its elements are. -/
structure Becomes (fifo : State T) (size used : Nat) (next : State T) : Prop where
  size : next.size = size
  used : next.used = used
  mutex : next.mutex = fifo.mutex
  notify : next.notify = fifo.notify
  eof : next.eof = fifo.eof
  error : next.error = fifo.error
  emitted : next.emitted = fifo.emitted

abbrev Frame (fifo next : State T) : Prop := Becomes fifo fifo.size fifo.used next

theorem Frame.refl (fifo : State T) : Frame fifo fifo := ⟨rfl, rfl, rfl, rfl, rfl, rfl, rfl⟩

theorem Becomes.isWritable {fifo next : State T} (frame : Frame fifo next) :
    next.isWritable = fifo.isWritable := by
  simp only [State.isWritable, State.isFull, State.isValid, frame.size, frame.used,
    frame.eof, frame.error]

theorem Becomes.of_frame {fifo middle next : State T} {size used : Nat}
    (frame : Frame fifo middle) (becomes : Becomes middle size used next) :
    Becomes fifo size used next where
  size := becomes.size
  used := becomes.used
  mutex := becomes.mutex.trans frame.mutex
  notify := becomes.notify.trans frame.notify
  eof := becomes.eof.trans frame.eof
  error := becomes.error.trans frame.error
  emitted := becomes.emitted.trans frame.emitted

theorem Frame.trans {fifo middle next : State T} (first : Frame fifo middle)
    (second : Frame middle next) : Frame fifo next := by
  have becomes := first.of_frame second
  rw [first.size, first.used] at becomes
  exact becomes

theorem used_of_readable {fifo : State T} (readable : fifo.isReadable = true) : 0 < fifo.used := by
  simp only [State.isReadable, State.isEmpty, Bool.and_eq_true, Bool.not_eq_true',
    decide_eq_false_iff_not] at readable
  omega

section Rules

variable {deadlock : Prop} {thrown : State T → Prop} {fifo : State T}

/-- Entering the lock; a caller for whom deadlock is as good as any outcome need
not show that it can be taken. -/
theorem wp_locked {body : Method T α} {post : α → State T → Prop}
    (enters : fifo.mutex.Lockable ∨ deadlock)
    (inner : wp deadlock body
      (fun value next => post value { next with mutex := next.mutex.leave })
      (fun next => thrown { next with mutex := next.mutex.leave }) fifo.entered) :
    wp deadlock (locked body) post thrown fifo := by
  rw [locked, Exec.wp_scopedLock]
  split
  · exact inner
  · rename_i held
    exact enters.resolve_left held

theorem wp_notifyIfOn (usedBefore : Nat) {post : Unit → State T → Prop} :
    wp deadlock (notifyIfOn usedBefore) post thrown fifo ↔
      post () (fifo.notified usedBefore) :=
  Exec.wp_of_ok (run_notifyIfOn usedBefore fifo)

theorem wp_on_load (start count : Nat) {post : List T → State T → Prop}
    (rest : ∀ data, data.length = count → post data fifo) :
    wp deadlock (Exec.on bufferField (Buffer.load start count)) post thrown fifo := by
  rw [Exec.wp_on]
  exact Buffer.wp_load _ _ rest

theorem wp_on_store (start : Nat) (data : List T) {post : Unit → State T → Prop}
    (rest : ∀ next, Frame fifo next → post () next) :
    wp deadlock (Exec.on bufferField (Buffer.store start data)) post thrown fifo := by
  rw [Exec.wp_on]
  exact Buffer.wp_store _ _ fun next same => rest _ ⟨same, rfl, rfl, rfl, rfl, rfl, rfl⟩

theorem wp_on_move (target source count : Nat) {post : Unit → State T → Prop}
    (rest : ∀ next, Frame fifo next → post () next) :
    wp deadlock (Exec.on bufferField (Buffer.move target source count)) post thrown
      fifo := by
  rw [Exec.wp_on]
  exact Buffer.wp_move _ _ _ fun next same => rest _ ⟨same, rfl, rfl, rfl, rfl, rfl, rfl⟩

theorem wp_compact {post : Unit → State T → Prop}
    (rest : ∀ next, Frame fifo next → post () next) :
    wp deadlock compact post thrown fifo := by
  rw [compact, Exec.wp_bind, Exec.wp_get, Exec.wp_bind]
  refine wp_on_move _ _ _ fun next frame => rest _ ?_
  exact ⟨frame.size, frame.used, frame.mutex, frame.notify, frame.eof, frame.error,
    frame.emitted⟩

theorem Frame.left {fifo next : State T} (frame : Frame fifo.entered next) :
    Frame fifo { next with mutex := next.mutex.leave } where
  size := frame.size
  used := frame.used
  mutex := by rw [frame.mutex, entered_mutex, Mutex.leave_enter]
  notify := frame.notify
  eof := frame.eof
  error := frame.error
  emitted := frame.emitted

theorem wp_begin (enters : fifo.mutex.Lockable ∨ deadlock) {post : Nat → State T → Prop}
    (rest : ∀ next, Frame fifo next → post 0 next) :
    wp deadlock begin post thrown fifo := by
  refine wp_locked enters ?_
  simp only [Exec.wp_bind, Exec.wp_get, Exec.wp_when, Exec.wp_pure]
  split
  · exact wp_compact fun next frame => rest _ frame.left
  · exact rest fifo (Frame.refl fifo)

theorem wp_makeRoom (length : Nat)
    (enters : SizeT.sub fifo.size (fifo.begin + fifo.used) < length →
      fifo.mutex.Lockable ∨ deadlock)
    {post : Unit → State T → Prop} (rest : ∀ next, Frame fifo next → post () next) :
    wp deadlock (makeRoom length) post thrown fifo := by
  simp only [makeRoom, Exec.wp_bind, Exec.wp_get, Exec.wp_when, decide_eq_true_eq]
  split
  · rename_i short
    refine wp_begin (enters short) fun next frame => ?_
    rw [Exec.wp_bind, Exec.wp_get, Exec.wp_bind]
    refine wp_on_move _ _ _ fun last moved => rest _ ?_
    obtain ⟨size, used, mutex, notify, eof, error, emitted⟩ := frame.trans moved
    exact ⟨size, used, mutex, notify, eof, error, emitted⟩
  · exact rest fifo (Frame.refl fifo)

end Rules

end BasicFIFOBuffer

end TestReactor
