import TestReactor.FifoBuffer.Frame
import TestReactor.ServerSocket

namespace TestReactor

namespace BasicFIFOBuffer

open Exec (wp)

/-! Which calls lock a mutex that their own chain already holds. -/

def State.unlocked (fifo : State T) : State T := { fifo with mutex := Mutex.free false }

/-- A call that never waits for a mutex its own chain holds, and that gives the
mutex back on return and on throw. -/
def Disciplined (body : Method T α) (fifo : State T) : Prop :=
  (∀ next, body.run fifo ≠ .error .deadlock next) ∧
    ∀ result next, body.returns fifo = some (result, next) → next.mutex = fifo.mutex

theorem disciplined_iff (body : Method T α) (fifo : State T) :
    Disciplined body fifo ↔
      wp False body (fun _ next => next.mutex = fifo.mutex)
        (fun next => next.mutex = fifo.mutex) fifo := by
  unfold Disciplined wp Exec.ends Exec.returns
  cases body.run fifo with
  | ok value next => simp
  | error stop next => cases stop <;> simp [Exec.excused]

/-- The calls that reach a lock of `_mutex` while they hold it. -/
def Op.LocksTwice (fifo : State T) : Op T → Prop
  | .write data => 0 < data.length ∧ fifo.isWritable
  | .writeBuffer source length =>
      0 < (State.offered source.val length).length ∧ fifo.isWritable
  | .copy data => 0 < data.length ∧ data.length ≤ fifo.available ∧ fifo.isWritable
  | .fill data => data.length ≤ fifo.available
  | .advance length =>
      length ≤ fifo.available ∧ fifo.isWritable ∧
        SizeT.sub fifo.size (fifo.begin + fifo.used) < length
  | .read length => 0 < length ∧ fifo.isReadable
  | .readBuffer _ _ => fifo.isReadable
  | .peekBuffer target _ => fifo.isReadable ∧ target.val.ownMem
  | .next => True
  | .peek _ | .drain _ | .begin | .setError _ | .setEOF _ | .resize _ _
  | .subscript _ => False

section

variable {fifo : State T} {thrown : State T → Prop}

theorem wp_locked_held {body : Method T α} {post : α → State T → Prop}
    (held : ¬ fifo.mutex.Lockable) :
    wp False (locked body) post thrown fifo ↔ False :=
  Exec.wp_of_deadlock (run_locked_of_held held)

theorem wp_locked_free {body : Method T α} {post : α → State T → Prop}
    (lockable : fifo.mutex.Lockable) :
    wp False (locked body) post thrown fifo ↔
      wp False body (fun value next => post value { next with mutex := next.mutex.leave })
        (fun next => thrown { next with mutex := next.mutex.leave }) fifo.entered := by
  rw [locked, Exec.wp_scopedLock, if_pos (by exact lockable)]
  rfl

theorem held_entered (fifo : State T) : ¬ fifo.unlocked.entered.mutex.Lockable := by
  simp [State.unlocked, Mutex.free, Mutex.Lockable, Mutex.enter]

theorem lockable_unlocked (fifo : State T) : fifo.unlocked.mutex.Lockable := .inr rfl

theorem wp_begin_held (held : ¬ fifo.mutex.Lockable) {post : Nat → State T → Prop} :
    wp False begin post thrown fifo ↔ False :=
  wp_locked_held held

theorem wp_makeRoom_held (held : ¬ fifo.mutex.Lockable) (length : Nat)
    {post : Unit → State T → Prop} :
    wp False (makeRoom length) post thrown fifo ↔
      ¬ SizeT.sub fifo.size (fifo.begin + fifo.used) < length ∧ post () fifo := by
  simp only [makeRoom, Exec.wp_bind, Exec.wp_get, Exec.wp_when, decide_eq_true_eq,
    wp_begin_held held]
  split <;> simp_all

theorem wp_putBehind_held (held : ¬ fifo.mutex.Lockable) (data : List T)
    {post : Unit → State T → Prop} :
    wp False (putBehind data) post thrown fifo ↔ False := by
  rw [putBehind, Exec.wp_bind, wp_begin_held held]

end

/-! Operation by operation, from a free mutex. -/

abbrev Clean (body : Method T α) (fifo : State T) : Prop :=
  wp False body (fun _ next => next.mutex = Mutex.free false)
    (fun next => next.mutex = Mutex.free false) fifo.unlocked

section

variable {fifo : State T}

theorem clean_locked (body : Method T α) :
    Clean (locked body) fifo ↔
      wp False body (fun _ next => next.mutex.leave = Mutex.free false)
        (fun next => next.mutex.leave = Mutex.free false) fifo.unlocked.entered :=
  wp_locked_free (lockable_unlocked fifo)

theorem leave_entered (fifo : State T) :
    fifo.unlocked.entered.mutex.leave = Mutex.free false := rfl

theorem clean_write (data : List T) :
    Clean (write data) fifo ↔ ¬ (0 < data.length ∧ fifo.isWritable = true) := by
  have held := held_entered fifo
  have writable : fifo.unlocked.entered.isWritable = fifo.isWritable := rfl
  by_cases empty : 0 = data.length
  · rw [write, if_pos empty]
    simp [← empty, State.unlocked]
  · have positive : 0 < data.length := by omega
    rw [write, if_neg empty, clean_locked]
    simp only [Exec.wp_bind, Exec.wp_get, Exec.wp_ite, wp_makeRoom_held held,
      wp_putBehind_held held, Exec.wp_pure, leave_entered, writable, positive, true_and]
    cases fifo.isWritable <;> simp

theorem clean_copy (data : List T) :
    Clean (copy data) fifo ↔
      ¬ (0 < data.length ∧ data.length ≤ fifo.available ∧ fifo.isWritable = true) := by
  have held := held_entered fifo
  have writable : fifo.unlocked.entered.isWritable = fifo.isWritable := rfl
  have available : fifo.unlocked.entered.available = fifo.available := rfl
  by_cases empty : 0 = data.length
  · rw [copy, if_pos empty]
    simp [← empty, State.unlocked]
  · have positive : 0 < data.length := by omega
    rw [copy, if_neg empty, clean_locked]
    simp only [checkRoom, Exec.wp_bind, Exec.wp_get, Exec.wp_ite, Exec.wp_raise_throw,
      wp_putBehind_held held, Exec.wp_pure, leave_entered, writable, available, positive,
      true_and]
    cases fifo.isWritable <;> simp

theorem clean_advance (length : Nat) :
    Clean (advance length) fifo ↔
      ¬ (length ≤ fifo.available ∧ fifo.isWritable = true ∧
        SizeT.sub fifo.size (fifo.begin + fifo.used) < length) := by
  have held := held_entered fifo
  have writable : fifo.unlocked.entered.isWritable = fifo.isWritable := rfl
  have available : fifo.unlocked.entered.available = fifo.available := rfl
  have behind : SizeT.sub fifo.unlocked.entered.size
      (fifo.unlocked.entered.begin + fifo.unlocked.entered.used) =
        SizeT.sub fifo.size (fifo.begin + fifo.used) := rfl
  rw [advance, clean_locked]
  simp only [checkRoom, Exec.wp_bind, Exec.wp_get, Exec.wp_ite, Exec.wp_raise_throw,
    wp_makeRoom_held held, Exec.wp_modify, wp_notifyIfOn, Exec.wp_pure, leave_entered,
    writable, available, behind, notified_mutex]
  cases fifo.isWritable <;> simp

theorem wp_peek_held {length : Nat} (positive : 0 < length) {thrown : State T → Prop}
    {post : Nat × List T → State T → Prop} (held : ¬ fifo.mutex.Lockable) :
    wp False (peek length) post thrown fifo ↔ False := by
  rw [peek, if_neg (by omega)]
  exact wp_locked_held held

theorem clean_peek (length : Nat) : Clean (peek length) fifo := by
  unfold peek
  split
  · rfl
  · rw [clean_locked]
    simp only [Exec.wp_bind, Exec.wp_get, Exec.wp_ite, Exec.wp_pure]
    split
    · rfl
    · exact wp_on_load _ _ fun _ _ => rfl

theorem clean_read (length : Nat) :
    Clean (read length) fifo ↔ ¬ (0 < length ∧ fifo.isReadable = true) := by
  have held := held_entered fifo
  have readable : fifo.unlocked.entered.isReadable = fifo.isReadable := rfl
  by_cases empty : 0 = length
  · rw [read, if_pos empty]
    simp [← empty, State.unlocked]
  · have positive : 0 < length := by omega
    rw [read, if_neg empty, clean_locked]
    simp only [Exec.wp_bind, Exec.wp_get, Exec.wp_ite, wp_peek_held positive held,
      Exec.wp_pure, leave_entered, readable, positive, true_and]
    cases fifo.isReadable <;> simp

theorem clean_next (fifo : State T) : ¬ Clean next fifo := by
  rw [next, clean_locked]
  simp only [Exec.wp_bind, wp_begin_held (held_entered fifo), not_false_eq_true]

theorem clean_begin : Clean begin fifo :=
  wp_begin (.inl (lockable_unlocked fifo)) fun _ frame => frame.mutex

theorem clean_drain (length : Nat) : Clean (drain length) fifo :=
  (Exec.wp_of_ok (run_drain length (lockable_unlocked fifo))).mpr rfl

theorem clean_setError (error : Bool) : Clean (setError error) fifo := by
  cases error with
  | true => exact (Exec.wp_of_ok (run_setError_true (lockable_unlocked fifo))).mpr rfl
  | false => exact (Exec.wp_of_ok (run_setError_false (lockable_unlocked fifo))).mpr rfl

theorem clean_setEOF (eof : Bool) : Clean (setEOF eof) fifo :=
  (Exec.wp_of_ok (run_setEOF eof (lockable_unlocked fifo))).mpr rfl

theorem clean_subscript (index : Nat) : Clean (subscript index) fifo := by
  rw [subscript, clean_locked]
  simp only [Exec.wp_bind, Exec.wp_get, Exec.wp_ite, Exec.wp_raise_throw]
  split
  · rfl
  · rw [Exec.wp_assert]
    intro _
    split
    · rfl
    · trivial

theorem clean_fill (data : List T) :
    Clean (fill data) fifo ↔ ¬ data.length ≤ fifo.available := by
  have available : fifo.unlocked.available = fifo.available := rfl
  have locks := clean_next fifo
  rw [Clean, fill, Exec.wp_bind, Exec.wp_get, Exec.wp_ite, available]
  split
  · rename_i exceeds
    exact ⟨fun _ => by omega, fun _ => trivial⟩
  · rename_i enough
    refine ⟨fun clean => ?_, fun exceeds => absurd (by omega) exceeds⟩
    rw [Exec.wp_bind, next, wp_locked_free (lockable_unlocked fifo), Exec.wp_bind,
      wp_begin_held (held_entered fifo)] at clean
    exact clean.elim

section Target

variable [Inhabited T]

theorem wp_peekBuffer_held {thrown : State T → Prop} (target : Buffer T) (length : Nat)
    {post : Nat × Buffer T → State T → Prop} (held : ¬ fifo.mutex.Lockable) :
    wp False (peekBuffer target length) post thrown fifo ↔ False :=
  wp_locked_held held

theorem clean_peekBuffer (target : Buffer.Valid T) (length : Nat) :
    Clean (peekBuffer target.val length) fifo ↔
      ¬ (fifo.isReadable = true ∧ target.val.ownMem = true) := by
  have held := held_entered fifo
  have readable : fifo.unlocked.entered.isReadable = fifo.isReadable := rfl
  rw [peekBuffer, clean_locked]
  simp only [Exec.wp_bind, Exec.wp_get, Exec.wp_ite, Exec.wp_pure, leave_entered, readable]
  cases reads : fifo.isReadable with
  | false => simp
  | true =>
      have bounds := clampedOrAll_bounds fifo length (used_of_readable reads)
      have count : fifo.unlocked.entered.clampedOrAll length = fifo.clampedOrAll length :=
        rfl
      cases owned : target.val.ownMem with
      | false =>
          rw [Exec.wp_callOn,
            Exec.wp_of_throw (Buffer.run_resize_of_foreign owned)]
          simp [State.unlocked]
      | true =>
          rw [Exec.wp_callOn, count, Exec.wp_of_ok
            (Buffer.run_resize_of_owned _ _ target.property owned bounds.1)]
          simp [wp_peek_held bounds.1 held]

theorem clean_readBuffer (target : Buffer T) (length : Nat) :
    Clean (readBuffer target length) fifo ↔ ¬ fifo.isReadable = true := by
  have held := held_entered fifo
  have readable : fifo.unlocked.entered.isReadable = fifo.isReadable := rfl
  rw [readBuffer, clean_locked]
  simp only [Exec.wp_bind, Exec.wp_get, Exec.wp_ite, Exec.wp_pure, leave_entered, readable,
    wp_peekBuffer_held target length held]
  cases fifo.isReadable <;> simp

theorem clean_resize (newSize : Nat) (preserveContent : Bool) :
    Clean (resize newSize preserveContent) fifo := by
  rw [resize, clean_locked]
  simp only [Exec.wp_bind, Exec.wp_get, Exec.wp_ite, Exec.wp_raise_throw]
  split
  · rfl
  · rw [Exec.wp_on]
    refine Buffer.wp_resize _ _ (fun _ => rfl) fun buffer _ _ _ => ?_
    rw [Exec.wp_bind, Exec.wp_when]
    split
    · rw [Exec.wp_modify, wp_notifyIfOn]
      rfl
    · rw [wp_notifyIfOn]
      rfl

end Target

end

/-- A single operation keeps the discipline exactly when it does not lock twice,
whatever the state of the buffer. -/
theorem disciplined_op [Inhabited T] (fifo : State T) (op : Op T) :
    Disciplined op.run fifo.unlocked ↔ ¬ op.LocksTwice fifo := by
  rw [disciplined_iff]
  cases op with
  | write data =>
      rw [Op.run, Exec.wp_map]
      exact clean_write data
  | writeBuffer source length =>
      rw [Op.run, Exec.wp_map, writeBuffer_eq]
      exact clean_write _
  | copy data =>
      rw [Op.run, Exec.wp_map]
      exact clean_copy data
  | fill data =>
      rw [Op.run, Exec.wp_map]
      exact clean_fill data
  | advance length =>
      rw [Op.run, Exec.wp_map]
      exact clean_advance length
  | read length =>
      rw [Op.run, Exec.wp_map]
      exact clean_read length
  | readBuffer target length =>
      rw [Op.run, Exec.wp_map]
      exact clean_readBuffer target.val length
  | peek length =>
      rw [Op.run, Exec.wp_map]
      exact iff_of_true (clean_peek length) id
  | peekBuffer target length =>
      rw [Op.run, Exec.wp_map]
      exact clean_peekBuffer target length
  | drain length =>
      rw [Op.run, Exec.wp_map]
      exact iff_of_true (clean_drain length) id
  | begin =>
      rw [Op.run, Exec.wp_map]
      exact iff_of_true clean_begin id
  | next =>
      rw [Op.run, Exec.wp_map]
      exact iff_of_false (clean_next fifo) (fun absent => absent trivial)
  | setError error =>
      rw [Op.run, Exec.wp_map]
      exact iff_of_true (clean_setError error) id
  | setEOF eof =>
      rw [Op.run, Exec.wp_map]
      exact iff_of_true (clean_setEOF eof) id
  | resize newSize preserveContent =>
      rw [Op.run, Exec.wp_map]
      exact iff_of_true (clean_resize newSize preserveContent) id
  | subscript index =>
      rw [Op.run, Exec.wp_map]
      exact iff_of_true (clean_subscript index) id

/-! The socket transfers hold the mutex over `next()` and `begin()`. -/

theorem undisciplined_receiveBytes (fifo : State UInt8) (socket : ServerSocket)
    (answers : List (Except Nat (List UInt8))) :
    ¬ Disciplined (socket.receiveBytesFIFO answers) fifo.unlocked := by
  rw [disciplined_iff, ServerSocket.receiveBytesFIFO,
    wp_locked_free (lockable_unlocked fifo), Exec.wp_bind, next,
    wp_locked_held (held_entered fifo)]
  exact id

theorem undisciplined_sendBytes (fifo : State UInt8) (socket : ServerSocket)
    (answers : List (Except Nat Nat)) :
    ¬ Disciplined (socket.sendBytesFIFO answers) fifo.unlocked := by
  rw [disciplined_iff, ServerSocket.sendBytesFIFO,
    wp_locked_free (lockable_unlocked fifo), Exec.wp_bind,
    wp_begin_held (held_entered fifo)]
  exact id

/-- From every state with the mutex free: an operation keeps the discipline
exactly when it does not lock twice, and a socket transfer never does. -/
theorem lock_discipline [Inhabited T] :
    (∀ (fifo : State T) (op : Op T),
      Disciplined op.run fifo.unlocked ↔ ¬ op.LocksTwice fifo) ∧
    ∀ (fifo : State UInt8) (socket : ServerSocket),
      (∀ answers, ¬ Disciplined (socket.receiveBytesFIFO answers) fifo.unlocked) ∧
        ∀ answers, ¬ Disciplined (socket.sendBytesFIFO answers) fifo.unlocked :=
  ⟨disciplined_op, fun fifo socket =>
    ⟨undisciplined_receiveBytes fifo socket, undisciplined_sendBytes fifo socket⟩⟩

/-- One byte written to an empty buffer: `write` calls `begin()` under the lock. -/
theorem write_locks_itself_out :
    ∃ fifo, (Op.write [7]).run.run
      ((Construction.ofSize 4).build false false : State UInt8) =
        .error .deadlock fifo :=
  ⟨_, rfl⟩

end BasicFIFOBuffer

end TestReactor
