import TestReactor.FifoBuffer.Forms

namespace TestReactor

namespace BasicFIFOBuffer

/-! The specification of every operation on a sound buffer whose mutex its
holder may lock again. -/

variable {fifo : State T}

theorem run_locked {body : Method T α} {fifo : State T}
    (lockable : fifo.mutex.Lockable) :
    (locked body).run fifo = releasing mutexField (body.run fifo.entered) :=
  run_scopedLock_of_lockable mutexField body lockable

theorem run_locked_of_held {body : Method T α} {fifo : State T}
    (held : ¬ fifo.mutex.Lockable) :
    (locked body).run fifo = .error .deadlock fifo :=
  run_scopedLock_of_not_lockable mutexField body held

theorem run_locked_ok {body : Method T α} {fifo next : State T} {value : α}
    (lockable : fifo.mutex.Lockable)
    (ran : body.run fifo.entered = .ok value next.entered) :
    (locked body).run fifo = .ok value next := by
  rw [run_locked lockable, ran]
  simp [mutexField, State.entered]

theorem run_locked_throw {body : Method T α} {fifo : State T} {what : String}
    (lockable : fifo.mutex.Lockable)
    (ran : body.run fifo.entered = .error (.throw what) fifo.entered) :
    (locked body).run fifo = .error (.throw what) fifo := by
  rw [run_locked lockable, ran]
  rfl

@[simp] theorem run_emit (signal : Signal) (value : Bool) (fifo : State T) :
    (emit signal value).run fifo =
      .ok () { fifo with
        emitted := fifo.emitted ++ [⟨signal, value, fifo.begin, fifo.used⟩] } := rfl

theorem run_raiseEdge (signal : Signal) (rises falls : Bool) (fifo : State T) :
    (raiseEdge signal rises falls).run fifo =
      .ok () { fifo with
        emitted := fifo.emitted ++ fifo.edge signal rises falls } := by
  cases rises
  · cases falls <;> simp [raiseEdge, State.edge]
  · simp [raiseEdge, State.edge]

theorem run_notify (usedBefore : Nat) (fifo : State T) :
    (notify usedBefore).run fifo =
      .ok () { fifo with emitted := fifo.emitted ++ fifo.edges usedBefore } := by
  simp only [notify, EStateM.run_bind, EStateM.run_get, run_raiseEdge,
    State.edges, List.append_assoc]
  rfl

@[simp] theorem run_notifyIfOn (usedBefore : Nat) (fifo : State T) :
    (notifyIfOn usedBefore).run fifo = .ok () (fifo.notified usedBefore) := by
  cases hnotify : fifo.notify with
  | false =>
      cases fifo
      simp_all [notifyIfOn, State.notified]
  | true => simp [notifyIfOn, State.notified, hnotify, run_notify]

theorem lockable_entered (recursive : fifo.mutex.recursive = true) :
    fifo.entered.mutex.Lockable :=
  .of_recursive recursive

theorem run_on_load (fifo : State T) (start count : Nat)
    (inside : start + count ≤ fifo.buffer.cells.length) :
    (Exec.on bufferField (Buffer.load start count)).run fifo =
      .ok (Cells.slice fifo.buffer.cells start count) fifo := by
  simp [Exec.run_on, bufferField, Buffer.run_load_of_inside inside]

theorem run_on_store (fifo : State T) (start : Nat) (data : List T)
    (inside : start + data.length ≤ fifo.buffer.cells.length) :
    (Exec.on bufferField (Buffer.store start data)).run fifo =
      .ok () { fifo with buffer := fifo.buffer.stored start data } := by
  simp [Exec.run_on, bufferField, Buffer.run_store_of_inside _ _ _ inside]

theorem run_on_store_of_outside {start : Nat} {data : List T} (nonempty : data ≠ [])
    (outside : ¬ start + data.length ≤ fifo.buffer.cells.length) :
    (Exec.on bufferField (Buffer.store start data)).run fifo = .error .fault fifo := by
  simp [Exec.run_on, bufferField, Buffer.run_store_of_outside nonempty outside]

theorem run_on_move_zero (fifo : State T) (count : Nat)
    (inside : count ≤ fifo.buffer.cells.length) :
    (Exec.on bufferField (Buffer.move 0 0 count)).run fifo = .ok () fifo := by
  have moved := Buffer.run_move_of_inside fifo.buffer 0 count (by omega)
  rw [Buffer.movedToFront_zero inside] at moved
  simp [Exec.run_on, bufferField, moved]

theorem run_compact (inside : fifo.begin + fifo.used ≤ fifo.buffer.cells.length)
    (moved : fifo.begin ≠ 0) :
    compact.run fifo = .ok () fifo.compacted := by
  simp [compact, Exec.run_on, bufferField, Buffer.run_move_of_inside _ _ _ inside,
    State.compacted, moved]

theorem run_begin_of_inside (inside : fifo.begin + fifo.used ≤ fifo.buffer.cells.length)
    (lockable : fifo.mutex.Lockable) :
    begin.run fifo = .ok 0 fifo.compacted := by
  have inside' : fifo.entered.begin + fifo.entered.used ≤ fifo.entered.buffer.cells.length :=
    inside
  apply run_locked_ok lockable
  by_cases zero : fifo.begin = 0
  · simp [zero, compacted_of_begin_zero]
  · simp [zero, run_compact inside' zero]

theorem run_begin (sound : Sound fifo) (lockable : fifo.mutex.Lockable) :
    begin.run fifo = .ok 0 fifo.compacted :=
  run_begin_of_inside sound.cells lockable

theorem run_next_of_inside (inside : fifo.begin + fifo.used ≤ fifo.buffer.cells.length)
    (recursive : fifo.mutex.recursive = true) :
    next.run fifo = .ok fifo.used fifo.compacted := by
  have began : begin.run fifo.entered = .ok 0 fifo.entered.compacted :=
    run_begin_of_inside inside (lockable_entered recursive)
  apply run_locked_ok (.of_recursive recursive)
  simp [began]

theorem run_next (sound : Sound fifo) (recursive : fifo.mutex.recursive = true) :
    next.run fifo = .ok fifo.used fifo.compacted :=
  run_next_of_inside sound.cells recursive

/-! Taking elements out. -/

theorem run_drain (length : Nat) (lockable : fifo.mutex.Lockable) :
    (drain length).run fifo = .ok () ((fifo.drained length).notified fifo.used) := by
  apply run_locked_ok lockable
  rw [← notified_entered, ← drained_entered]
  unfold State.drained State.exhausted
  by_cases all : 0 = length ∨ length ≥ fifo.used
  · simp [all]
  · simp [all]

theorem run_peek (length : Nat) (sound : Sound fifo)
    (lockable : fifo.mutex.Lockable) :
    (peek length).run fifo =
      .ok (min length fifo.used, fifo.content.take length) fifo := by
  unfold peek
  split
  · rename_i zero
    simp [← zero]
  · apply run_locked_ok lockable
    cases readable : fifo.isReadable with
    | false =>
        have empty := used_of_not_readable sound readable
        simp [readable, empty, content_nil empty]
    | true =>
        have cells := sound.cells
        have loaded := run_on_load fifo.entered fifo.begin (min length fifo.used)
          (by simp only [entered_buffer]; omega)
        simp [readable, clamped_eq, loaded, State.content, Cells.take_slice]

theorem run_peekBuffer_empty [Inhabited T] (target : Buffer T) (length : Nat)
    (lockable : fifo.mutex.Lockable) (unreadable : fifo.isReadable = false) :
    (peekBuffer target length).run fifo = .ok (0, target) fifo := by
  apply run_locked_ok lockable
  simp [unreadable]

theorem run_peekBuffer_foreign [Inhabited T] (fifo : State T) (target : Buffer T)
    (length : Nat)
    (lockable : fifo.mutex.Lockable) (readable : fifo.isReadable = true)
    (foreign : target.ownMem = false) :
    (peekBuffer target length).run fifo =
      .error (.throw "Cannot resize buffer which does not own its storage.")
        fifo := by
  apply run_locked_throw lockable
  simp [readable, Exec.run_callOn, Buffer.run_resize_of_foreign foreign]

theorem run_peekBuffer [Inhabited T] {target : Buffer T} (length : Nat)
    (sound : Sound fifo) (recursive : fifo.mutex.recursive = true)
    (wellFormed : target.WellFormed) (owned : target.ownMem = true)
    (readable : fifo.isReadable = true) :
    (peekBuffer target length).run fifo =
      .ok (fifo.clampedOrAll length,
        filled target (fifo.content.take (fifo.clampedOrAll length))) fifo := by
  have nonempty := (isReadable_iff sound).mp readable
  have full := length_content sound
  obtain ⟨positive, within⟩ := clampedOrAll_bounds fifo length nonempty
  have taken : (fifo.content.take (fifo.clampedOrAll length)).length =
      fifo.clampedOrAll length := by
    rw [List.length_take]
    omega
  have resized := wellFormed.resized (fifo.clampedOrAll length) true
  have peeked := run_peek (fifo.clampedOrAll length) sound.entered
    (lockable_entered recursive)
  have stored := Buffer.run_store_of_inside
    (target.resized (fifo.clampedOrAll length) true) 0
    (fifo.content.take (fifo.clampedOrAll length))
    (by
      have capacity := resized.capacity_eq
      have used := resized.used_le
      rw [Buffer.used_resized] at used
      omega)
  apply run_locked_ok (.of_recursive recursive)
  simp [readable, Exec.run_callOn, Buffer.run_resize_of_owned _ _ wellFormed owned positive,
    peeked, stored, filled, taken, Nat.min_eq_left within]

theorem run_take (fifo : State T) (length : Nat) (nonempty : 0 < fifo.used) :
    (take fifo.used (fifo.clampedOrAll length) length).run fifo =
      .ok () ((fifo.drained length).notified fifo.used) := by
  have within := (clampedOrAll_bounds fifo length nonempty).2
  unfold State.drained State.exhausted
  by_cases all : 0 = length ∨ length ≥ fifo.used
  · have count : fifo.clampedOrAll length = fifo.used := by
      rw [clampedOrAll_eq]
      split <;> omega
    simp [take, count, all]
  · have count : fifo.clampedOrAll length = length := by
      rw [clampedOrAll_eq]
      split <;> omega
    have rest : ¬ 0 = fifo.used - length := by omega
    have enough : length ≤ fifo.used := by omega
    simp [take, count, all, rest, enough]

theorem run_read_empty (length : Nat) (lockable : fifo.mutex.Lockable)
    (unreadable : fifo.isReadable = false) :
    (read length).run fifo = .ok (0, []) fifo := by
  unfold read
  split
  · rfl
  · apply run_locked_ok lockable
    simp [unreadable]

theorem run_read (length : Nat) (sound : Sound fifo)
    (recursive : fifo.mutex.recursive = true) (readable : fifo.isReadable = true)
    (positive : 0 < length) :
    (read length).run fifo =
      .ok (min length fifo.used, fifo.content.take length)
        ((fifo.drained length).notified fifo.used) := by
  have nonempty := (isReadable_iff sound).mp readable
  have nonzero : ¬ 0 = length := by omega
  have count : min length fifo.used = fifo.clampedOrAll length := by
    rw [clampedOrAll_eq, if_neg nonzero]
  have peeked := run_peek length sound.entered (lockable_entered recursive)
  have taken := run_take fifo.entered length nonempty
  rw [entered_used, entered_clampedOrAll] at taken
  rw [read, if_neg nonzero]
  apply run_locked_ok (.of_recursive recursive)
  simp [readable, peeked, count, taken]

theorem run_readBuffer_empty [Inhabited T] (target : Buffer T) (length : Nat)
    (lockable : fifo.mutex.Lockable) (unreadable : fifo.isReadable = false) :
    (readBuffer target length).run fifo = .ok (0, target) fifo := by
  apply run_locked_ok lockable
  simp [unreadable]

theorem run_readBuffer_foreign [Inhabited T] (target : Buffer T) (length : Nat)
    (recursive : fifo.mutex.recursive = true) (readable : fifo.isReadable = true)
    (foreign : target.ownMem = false) :
    (readBuffer target length).run fifo =
      .error (.throw "Cannot resize buffer which does not own its storage.")
        fifo := by
  have peeked := run_peekBuffer_foreign fifo.entered target length
    (lockable_entered recursive) readable foreign
  apply run_locked_throw (.of_recursive recursive)
  simp [readable, peeked]

theorem run_readBuffer [Inhabited T] {target : Buffer T} (length : Nat)
    (sound : Sound fifo) (recursive : fifo.mutex.recursive = true)
    (wellFormed : target.WellFormed) (owned : target.ownMem = true)
    (readable : fifo.isReadable = true) :
    (readBuffer target length).run fifo =
      .ok (fifo.clampedOrAll length,
        filled target (fifo.content.take (fifo.clampedOrAll length)))
        ((fifo.drained length).notified fifo.used) := by
  have nonempty := (isReadable_iff sound).mp readable
  have peeked := run_peekBuffer length sound.entered recursive
    wellFormed owned readable
  have taken := run_take fifo.entered length nonempty
  rw [entered_used, entered_clampedOrAll] at taken
  apply run_locked_ok (.of_recursive recursive)
  simp [readable, peeked, taken]

theorem run_subscript {index : Nat} {element : T} (sound : Sound fifo)
    (lockable : fifo.mutex.Lockable) (within : index < fifo.used)
    (present : fifo.buffer.cells[fifo.begin + index]? = some element) :
    (subscript index).run fifo = .ok element fifo := by
  have inside := sound.inside
  have below : fifo.begin + index < fifo.size := by omega
  apply run_locked_ok lockable
  simp [Nat.not_le_of_lt within, below, present]

theorem run_subscript_outside {index : Nat} (lockable : fifo.mutex.Lockable)
    (outside : ¬ index < fifo.used) :
    (subscript index).run fifo = .error (.throw "Index out of bounds") fifo := by
  apply run_locked_throw lockable
  simp [Nat.le_of_not_lt outside]

/-! Putting elements in. -/

theorem run_makeRoom (length : Nat) (sound : Sound fifo)
    (lockable : fifo.mutex.Lockable) :
    (makeRoom length).run fifo = .ok () (fifo.roomed length) := by
  have behind := SizeT.sub_of_le sound.inside
  have moved := run_on_move_zero fifo.compacted fifo.used
    (by
      have cells := sound.compacted.cells
      rw [compacted_begin, compacted_used] at cells
      omega)
  unfold State.roomed State.short
  by_cases short : fifo.size - (fifo.begin + fifo.used) < length
  · simp [makeRoom, behind, short, run_begin sound lockable, moved]
  · simp [makeRoom, behind, short]

theorem run_putBehind (data : List T) (sound : Sound fifo)
    (lockable : fifo.mutex.Lockable)
    (room : fifo.used + data.length ≤ fifo.size) :
    (putBehind data).run fifo = .ok () (fifo.compacted.appended data) := by
  have capacity := sound.compacted.buffer.capacity_eq
  have used := sound.compacted.buffer.used_le
  have size : fifo.compacted.buffer.used = fifo.size := compacted_size fifo
  have stored := run_on_store fifo.compacted fifo.used data (by omega)
  simp [putBehind, run_begin sound lockable, stored, State.appended]

theorem run_write {data : List T} (sound : Sound fifo)
    (recursive : fifo.mutex.recursive = true) (writable : fifo.isWritable = true)
    (nonempty : data ≠ []) :
    (write data).run fifo =
      .ok (min data.length (fifo.size - fifo.used))
        ((fifo.compacted.appended
          (data.take (min data.length (fifo.size - fifo.used)))).notified
            fifo.used) := by
  have long : ¬ 0 = data.length := by
    rw [eq_comm, List.length_eq_zero_iff]
    exact nonempty
  have inside := sound.inside
  have made := run_makeRoom data.length sound.entered (lockable_entered recursive)
  rw [roomed_entered] at made
  have put := run_putBehind
    (data.take (min data.length (fifo.size - fifo.used)))
    (sound.roomed data.length).entered
    (lockable_entered (by simpa using recursive))
    (by simp; omega)
  rw [write, if_neg long]
  apply run_locked_ok (.of_recursive recursive)
  have fits : fifo.used + min data.length (fifo.size - fifo.used) ≤ fifo.size := by
    omega
  simp [writable, made, available_roomed data.length sound, put, fits]

theorem run_write_refused {data : List T} (lockable : fifo.mutex.Lockable)
    (refused : fifo.isWritable = false) :
    (write data).run fifo = .ok 0 fifo := by
  unfold write
  split
  · rfl
  · apply run_locked_ok lockable
    simp [refused]

theorem run_checkRoom (fifo : State T) (length : Nat) (within : fifo.used ≤ fifo.size) :
    (checkRoom length).run fifo =
      if Accepts fifo length then .ok () fifo
      else .error (.throw (refusal fifo length)) fifo := by
  have available : fifo.available = fifo.size - fifo.used := SizeT.sub_of_le within
  by_cases exceeds : fifo.size - fifo.used < length
  · have refused : ¬ Accepts fifo length := fun accepts => absurd accepts.1 (by omega)
    simp [checkRoom, available, exceeds, refused, refusal]
  · cases writable : fifo.isWritable <;>
      simp [checkRoom, available, exceeds, Accepts, refusal, writable, Nat.le_of_not_lt exceeds]

theorem run_copy {data : List T} (sound : Sound fifo)
    (recursive : fifo.mutex.recursive = true) (nonempty : data ≠ [])
    (accepts : Accepts fifo data.length) :
    (copy data).run fifo =
      .ok () ((fifo.compacted.appended data).notified fifo.used) := by
  have long : ¬ 0 = data.length := by
    rw [eq_comm, List.length_eq_zero_iff]
    exact nonempty
  have inside := sound.inside
  have checked := run_checkRoom fifo.entered data.length sound.used_le
  rw [if_pos (show Accepts fifo.entered data.length from accepts)] at checked
  have put := run_putBehind data sound.entered
    (lockable_entered recursive) (by have := accepts.1; simp; omega)
  rw [copy, if_neg long]
  apply run_locked_ok (.of_recursive recursive)
  simp [checked, put]

theorem run_copy_refused {data : List T} (within : fifo.used ≤ fifo.size)
    (lockable : fifo.mutex.Lockable) (nonempty : data ≠ [])
    (refused : ¬ Accepts fifo data.length) :
    (copy data).run fifo = .error (.throw (refusal fifo data.length)) fifo := by
  have long : ¬ 0 = data.length := by
    rw [eq_comm, List.length_eq_zero_iff]
    exact nonempty
  have checked := run_checkRoom fifo.entered data.length within
  rw [if_neg (show ¬ Accepts fifo.entered data.length from refused)] at checked
  rw [copy, if_neg long]
  apply run_locked_throw lockable
  simp [checked]
  rfl

theorem run_copy_nil : (copy []).run fifo = .ok () fifo := rfl

theorem run_advance (length : Nat) (sound : Sound fifo)
    (recursive : fifo.mutex.recursive = true) (accepts : Accepts fifo length) :
    (advance length).run fifo =
      .ok () (((fifo.roomed length).grown length).notified fifo.used) := by
  have checked := run_checkRoom fifo.entered length sound.used_le
  rw [if_pos (show Accepts fifo.entered length from accepts)] at checked
  have made := run_makeRoom length sound.entered (lockable_entered recursive)
  rw [roomed_entered] at made
  apply run_locked_ok (.of_recursive recursive)
  simp [checked, made]
  rfl

theorem run_advance_refused (fifo : State T) (length : Nat) (within : fifo.used ≤ fifo.size)
    (lockable : fifo.mutex.Lockable) (refused : ¬ Accepts fifo length) :
    (advance length).run fifo = .error (.throw (refusal fifo length)) fifo := by
  have checked := run_checkRoom fifo.entered length within
  rw [if_neg (show ¬ Accepts fifo.entered length from refused)] at checked
  apply run_locked_throw lockable
  simp [checked]
  rfl

/-! The flags and the size. -/

theorem run_setError_true (lockable : fifo.mutex.Lockable) :
    (setError true).run fifo = .ok () fifo.failed := by
  apply run_locked_ok lockable
  rw [show fifo.failed.entered = fifo.entered.failed from rfl]
  unfold State.failed State.edge
  cases hreadable : fifo.isReadable <;> cases hwritable : fifo.isWritable <;>
    cases hnotify : fifo.notify <;> simp [hreadable, hwritable, hnotify]

theorem run_setError_false (lockable : fifo.mutex.Lockable) :
    (setError false).run fifo = .ok () fifo.recovered := by
  apply run_locked_ok lockable
  rw [show fifo.recovered.entered = fifo.entered.recovered from rfl]
  unfold State.recovered State.edge
  cases hnotify : fifo.notify <;> cases heof : fifo.eof <;> simp [hnotify, heof]

theorem run_setEOF (eof : Bool) (lockable : fifo.mutex.Lockable) :
    (setEOF eof).run fifo = .ok () (fifo.ended eof) := by
  apply run_locked_ok lockable
  rw [show (fifo.ended eof).entered = fifo.entered.ended eof from rfl]
  unfold State.ended State.edge
  cases hnotify : fifo.notify <;> cases eof <;> simp [hnotify]

section Resize

variable [Inhabited T]

theorem run_resize_of_loss {newSize : Nat} (lockable : fifo.mutex.Lockable)
    (loss : newSize < fifo.used) :
    (resize newSize true).run fifo =
      .error (.throw "Can not resize FIFO without data loss.") fifo := by
  apply run_locked_throw lockable
  simp [loss]

theorem run_resize_of_foreign {newSize : Nat} {preserveContent : Bool}
    (lockable : fifo.mutex.Lockable)
    (fits : ¬ (preserveContent = true ∧ newSize < fifo.used))
    (foreign : fifo.buffer.ownMem = false) :
    (resize newSize preserveContent).run fifo =
      .error (.throw "Cannot resize buffer which does not own its storage.")
        fifo := by
  apply run_locked_throw lockable
  simp [fits, Exec.run_on, bufferField, Buffer.run_resize_of_foreign foreign]
  rfl

theorem run_resize_of_zero (preserveContent : Bool) (lockable : fifo.mutex.Lockable)
    (accepted : fifo.refusesResize 0 preserveContent = false) :
    (resize 0 preserveContent).run fifo = .error .abort fifo.entered := by
  simp only [State.refusesResize, Bool.or_eq_false_iff, Bool.and_eq_false_iff,
    decide_eq_false_iff_not, Bool.not_eq_false'] at accepted
  obtain ⟨fits, owned⟩ := accepted
  have resized := Buffer.run_resize_of_zero preserveContent owned
  have kept : ¬ (preserveContent = true ∧ 0 < fifo.used) := by
    rintro ⟨rfl, positive⟩
    simp_all
  rw [resize, run_locked lockable]
  simp [kept, Exec.run_on, bufferField, resized, State.entered]

theorem run_resize {newSize : Nat} {preserveContent : Bool}
    (wellFormed : fifo.buffer.WellFormed) (lockable : fifo.mutex.Lockable)
    (fits : ¬ (preserveContent = true ∧ newSize < fifo.used))
    (owned : fifo.buffer.ownMem = true) (positive : 0 < newSize) :
    (resize newSize preserveContent).run fifo =
      .ok () ((fifo.resized newSize preserveContent).notified fifo.used) := by
  apply run_locked_ok lockable
  rw [← notified_entered]
  have resized := Buffer.run_resize_of_owned newSize preserveContent
    wellFormed owned positive
  cases preserveContent
  · simp [Exec.run_on, bufferField, resized, State.resized, State.entered]
  · have enough : ¬ newSize < fifo.used := by simpa using fits
    simp [Exec.run_on, bufferField, resized, State.resized, State.entered, enough]

end Resize

/-! `next`, a fill and `advance` as one operation of a caller. -/

theorem run_fill_over (data : List T) (within : fifo.used ≤ fifo.size)
    (exceeds : fifo.size < fifo.used + data.length) :
    (fill data).run fifo = .error .fault fifo := by
  have available : fifo.available = fifo.size - fifo.used := SizeT.sub_of_le within
  have short : data.length > fifo.size - fifo.used := by omega
  simp [fill, available, short]

theorem run_staged {data : List T} (sound : Sound fifo)
    (recursive : fifo.mutex.recursive = true)
    (room : fifo.used + data.length ≤ fifo.size) :
    (fill data).run fifo = (advance data.length).run (fifo.compacted.staged data) := by
  have available : fifo.available = fifo.size - fifo.used :=
    SizeT.sub_of_le sound.used_le
  have enough : ¬ data.length > fifo.size - fifo.used := by omega
  have size := sound.compacted.size_le
  rw [compacted_size] at size
  have stored := run_on_store fifo.compacted fifo.used data (by omega)
  simp [fill, available, enough, run_next sound recursive, stored]
  rfl

theorem run_fill {data : List T} (sound : Sound fifo)
    (recursive : fifo.mutex.recursive = true) (accepts : Accepts fifo data.length) :
    (fill data).run fifo =
      .ok () ((fifo.compacted.appended data).notified fifo.used) := by
  have used := sound.used_le
  have room : fifo.used + data.length ≤ fifo.size := by
    have enough := accepts.1
    omega
  have staged := sound.compacted.staged data (by simpa using room)
  have fits : (fifo.compacted.staged data).short data.length = false := by
    simp only [State.short, staged_size, compacted_size, decide_eq_false_iff_not]
    simp only [State.staged, compacted_begin, compacted_used]
    omega
  have advanced := run_advance data.length staged
    recursive (by simpa [Accepts] using accepts)
  rw [run_staged sound recursive room, advanced, roomed_of_fits _ _ fits]
  rfl

theorem run_fill_refused {data : List T} (sound : Sound fifo)
    (recursive : fifo.mutex.recursive = true)
    (room : fifo.used + data.length ≤ fifo.size)
    (refused : fifo.isWritable = false) :
    (fill data).run fifo =
      .error (.throw "Buffer not writable.") (fifo.compacted.staged data) := by
  have used := (sound.compacted.staged data (by simpa using room)).used_le
  have advanced := run_advance_refused (fifo.compacted.staged data) data.length
    used (.of_recursive recursive) (by simp [Accepts, refused])
  have message : refusal (fifo.compacted.staged data) data.length =
      "Buffer not writable." := by
    simp [refusal]
    omega
  rw [run_staged sound recursive room, advanced, message]

end BasicFIFOBuffer

end TestReactor
