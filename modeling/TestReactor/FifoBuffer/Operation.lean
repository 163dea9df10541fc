import TestReactor.FifoBuffer.Spec
import TestReactor.Runs

namespace TestReactor

abbrev Buffer.Valid (T : Type) := { buffer : Buffer T // buffer.WellFormed }

namespace BasicFIFOBuffer

/-! The public operations as the labels of one transition system.  A call that
throws leaves a buffer its caller goes on using; a call that deadlocks, aborts
or faults has no state after it. -/

inductive Construction (T : Type) where
  | ofSize (size : Nat)
  | ofMemory (memory : List T)
  | ofCopy (memory : List T)

inductive Op (T : Type) where
  | write (data : List T)
  | writeBuffer (source : Buffer.Valid T) (length : Nat)
  | copy (data : List T)
  | fill (data : List T)
  | advance (length : Nat)
  | read (length : Nat)
  | readBuffer (target : Buffer.Valid T) (length : Nat)
  | peek (length : Nat)
  | peekBuffer (target : Buffer.Valid T) (length : Nat)
  | drain (length : Nat)
  | begin
  | next
  | setError (error : Bool)
  | setEOF (eof : Bool)
  | resize (newSize : Nat) (preserveContent : Bool)
  | subscript (index : Nat)

inductive Reply (T : Type) where
  | done
  | offset (position : Nat)
  | count (length : Nat)
  | elements (length : Nat) (data : List T)
  | filled (length : Nat) (target : Buffer T)
  | element (value : T)
  deriving DecidableEq, Repr

section

variable [Inhabited T]

def Construction.build (recursive notify : Bool) : Construction T → State T
  | .ofSize size => BasicFIFOBuffer.ofSize size recursive notify
  | .ofMemory memory => BasicFIFOBuffer.ofMemory memory recursive notify
  | .ofCopy memory => BasicFIFOBuffer.ofCopy memory recursive notify

def Op.run : Op T → Method T (Reply T)
  | .write data => Reply.count <$> BasicFIFOBuffer.write data
  | .writeBuffer source length =>
      Reply.count <$> BasicFIFOBuffer.writeBuffer source.val length
  | .copy data => (fun _ => Reply.done) <$> BasicFIFOBuffer.copy data
  | .fill data => (fun _ => Reply.done) <$> BasicFIFOBuffer.fill data
  | .advance length => (fun _ => Reply.done) <$> BasicFIFOBuffer.advance length
  | .read length =>
      (fun (count, data) => Reply.elements count data) <$> BasicFIFOBuffer.read length
  | .readBuffer target length =>
      (fun (count, target) => Reply.filled count target) <$>
        BasicFIFOBuffer.readBuffer target.val length
  | .peek length =>
      (fun (count, data) => Reply.elements count data) <$> BasicFIFOBuffer.peek length
  | .peekBuffer target length =>
      (fun (count, target) => Reply.filled count target) <$>
        BasicFIFOBuffer.peekBuffer target.val length
  | .drain length => (fun _ => Reply.done) <$> BasicFIFOBuffer.drain length
  | .begin => Reply.offset <$> BasicFIFOBuffer.begin
  | .next => Reply.offset <$> BasicFIFOBuffer.next
  | .setError error => (fun _ => Reply.done) <$> BasicFIFOBuffer.setError error
  | .setEOF eof => (fun _ => Reply.done) <$> BasicFIFOBuffer.setEOF eof
  | .resize newSize preserveContent =>
      (fun _ => Reply.done) <$> BasicFIFOBuffer.resize newSize preserveContent
  | .subscript index => Reply.element <$> BasicFIFOBuffer.subscript index

def step (fifo : State T) (op : Op T) : Option (State T) :=
  (op.run.returns fifo).map Prod.snd

end

/-! What each operation answers and leaves, in closed form. -/

namespace State

variable (fifo : State T)

def accepted (data : List T) : List T :=
  if fifo.isWritable then data.take (fifo.size - fifo.used) else []

def put (data : List T) : State T :=
  if data = [] then fifo else (fifo.compacted.appended data).notified fifo.used

/-- The elements of `source` that `write(source, length)` offers. -/
def offered (source : Buffer T) (length : Nat) : List T :=
  if length = 0 ∨ length > source.size then source.elements
  else source.elements.take length

end State

section

variable [Inhabited T] (fifo : State T)

/-- The calls that come back: a caller must not fill more than `available()`
elements, and no buffer can be resized to nothing. -/
def Op.Possible : Op T → Prop
  | .fill data => data.length ≤ fifo.size - fifo.used
  | .resize newSize preserveContent =>
      fifo.refusesResize newSize preserveContent = true ∨ 0 < newSize
  | _ => True

def Op.after : Op T → State T
  | .write data => fifo.put (fifo.accepted data)
  | .writeBuffer source length =>
      fifo.put (fifo.accepted (State.offered source.val length))
  | .copy data => if Accepts fifo data.length then fifo.put data else fifo
  | .fill data =>
      if fifo.isWritable then (fifo.compacted.appended data).notified fifo.used
      else fifo.compacted.staged data
  | .advance length =>
      if Accepts fifo length then ((fifo.roomed length).grown length).notified fifo.used
      else fifo
  | .read length =>
      if 0 < length ∧ fifo.isReadable then (fifo.drained length).notified fifo.used
      else fifo
  | .readBuffer target length =>
      if fifo.isReadable ∧ target.val.ownMem then
        (fifo.drained length).notified fifo.used
      else fifo
  | .drain length => (fifo.drained length).notified fifo.used
  | .begin | .next => fifo.compacted
  | .setError error => if error then fifo.failed else fifo.recovered
  | .setEOF eof => fifo.ended eof
  | .resize newSize preserveContent =>
      if fifo.refusesResize newSize preserveContent then fifo
      else (fifo.resized newSize preserveContent).notified fifo.used
  | .peek _ | .peekBuffer _ _ | .subscript _ => fifo

def State.fills (target : Buffer T) (length : Nat) : Except String (Reply T) :=
  if fifo.isReadable then
    if target.ownMem then
      .ok (.filled (fifo.clampedOrAll length)
        (filled target (fifo.content.take (fifo.clampedOrAll length))))
    else .error "Cannot resize buffer which does not own its storage."
  else .ok (.filled 0 target)

def Op.answer : Op T → Except String (Reply T)
  | .write data => .ok (.count (fifo.accepted data).length)
  | .writeBuffer source length =>
      .ok (.count (fifo.accepted (State.offered source.val length)).length)
  | .copy data =>
      if data = [] ∨ Accepts fifo data.length then .ok .done
      else .error (refusal fifo data.length)
  | .fill data =>
      if fifo.isWritable then .ok .done else .error (refusal fifo data.length)
  | .advance length =>
      if Accepts fifo length then .ok .done else .error (refusal fifo length)
  | .read length | .peek length =>
      .ok (.elements (min length fifo.used) (fifo.content.take length))
  | .readBuffer target length | .peekBuffer target length =>
      fifo.fills target.val length
  | .begin => .ok (.offset 0)
  | .next => .ok (.offset fifo.used)
  | .drain _ | .setError _ | .setEOF _ => .ok .done
  | .resize newSize preserveContent =>
      if preserveContent ∧ newSize < fifo.used then
        .error "Can not resize FIFO without data loss."
      else if fifo.buffer.ownMem then .ok .done
      else .error "Cannot resize buffer which does not own its storage."
  | .subscript index =>
      match fifo.content[index]? with
      | some element => .ok (.element element)
      | none => .error "Index out of bounds"

end

section Returns

variable {fifo : State T}

theorem accepted_eq (data : List T) (writable : fifo.isWritable = true) :
    fifo.accepted data = data.take (min data.length (fifo.size - fifo.used)) := by
  rw [State.accepted, if_pos writable, Nat.min_comm, ← List.take_take, List.take_length]

theorem room_of_writable (sound : Sound fifo) (writable : fifo.isWritable = true) :
    0 < fifo.size - fifo.used := by
  have within := sound.used_le
  simp only [State.isWritable, State.isFull, Bool.and_eq_true, Bool.not_eq_true',
    decide_eq_false_iff_not] at writable
  omega

theorem length_accepted_le (data : List T) :
    (fifo.accepted data).length ≤ fifo.size - fifo.used := by
  unfold State.accepted
  split
  · rw [List.length_take]
    omega
  · exact Nat.zero_le _

theorem returns_write (sound : Sound fifo) (recursive : fifo.mutex.recursive = true)
    (data : List T) :
    (write data).run fifo =
      .ok (fifo.accepted data).length (fifo.put (fifo.accepted data)) := by
  cases writable : fifo.isWritable with
  | false =>
      have none : fifo.accepted data = [] := by simp [State.accepted, writable]
      rw [run_write_refused (.of_recursive recursive) writable, none]
      rfl
  | true =>
      by_cases nonempty : data = []
      · subst nonempty
        have none : fifo.accepted [] = [] := by simp [State.accepted]
        rw [none]
        rfl
      · have room := room_of_writable sound writable
        have some : fifo.accepted data ≠ [] := by
          rw [accepted_eq data writable]
          simp only [ne_eq, List.take_eq_nil_iff, nonempty, or_false]
          have long := List.length_pos_iff.mpr nonempty
          omega
        rw [run_write sound recursive writable nonempty, State.put, if_neg some,
          accepted_eq data writable, List.length_take]
        congr 1
        omega

theorem writeBuffer_eq (source : Buffer T) (length : Nat) :
    writeBuffer source length = write (State.offered source length) := by
  unfold writeBuffer State.offered
  split
  · rfl
  · rename_i part
    simp only [Buffer.size] at part
    simp only [Cells.slice, Buffer.elements, List.take_take, List.drop_zero]
    rw [Nat.min_eq_left (by omega)]

end Returns

section

variable [Inhabited T] {fifo : State T}

/-- The call comes back, with the answer and the state given. -/
def Op.Settles (fifo : State T) (op : Op T) : Prop :=
  op.run.returns fifo = some (op.answer fifo, op.after fifo)

theorem settles_copy (sound : Sound fifo) (recursive : fifo.mutex.recursive = true)
    (data : List T) : (Op.copy data).Settles fifo := by
  have lockable : fifo.mutex.Lockable := .of_recursive recursive
  by_cases empty : data = []
  · subst empty
    have same : Op.after fifo (.copy []) = fifo := by simp [Op.after, State.put]
    rw [Op.Settles, same]
    exact Exec.returns_map_ok _ run_copy_nil
  · by_cases accepts : Accepts fifo data.length
    · simp only [Op.Settles, Op.answer, Op.after, State.put, accepts, empty, or_true, if_true,
        if_false]
      exact Exec.returns_map_ok _ (run_copy sound recursive empty accepts)
    · simp only [Op.Settles, Op.answer, Op.after, accepts, empty, or_false, if_false]
      exact Exec.returns_map_throw _
        (run_copy_refused sound.used_le lockable empty accepts)

theorem settles_fill (sound : Sound fifo) (recursive : fifo.mutex.recursive = true)
    {data : List T} (enough : data.length ≤ fifo.size - fifo.used) :
    (Op.fill data).Settles fifo := by
  have within := sound.used_le
  cases writable : fifo.isWritable with
  | true =>
      simp only [Op.Settles, Op.answer, Op.after, writable, if_true]
      exact Exec.returns_map_ok _ (run_fill sound recursive ⟨enough, writable⟩)
  | false =>
      have message : refusal fifo data.length = "Buffer not writable." := by
        rw [refusal, if_neg (by omega)]
      simp only [Op.Settles, Op.answer, Op.after, writable, Bool.false_eq_true, if_false, message]
      exact Exec.returns_map_throw _
        (run_fill_refused sound recursive (by omega) writable)

theorem settles_advance (sound : Sound fifo) (recursive : fifo.mutex.recursive = true)
    (length : Nat) : (Op.advance length).Settles fifo := by
  have lockable : fifo.mutex.Lockable := .of_recursive recursive
  by_cases accepts : Accepts fifo length
  · simp only [Op.Settles, Op.answer, Op.after, accepts, if_true]
    exact Exec.returns_map_ok _ (run_advance length sound recursive accepts)
  · simp only [Op.Settles, Op.answer, Op.after, accepts, if_false]
    exact Exec.returns_map_throw _
      (run_advance_refused fifo length sound.used_le lockable accepts)

theorem settles_read (sound : Sound fifo) (recursive : fifo.mutex.recursive = true)
    (length : Nat) : (Op.read length).Settles fifo := by
  have lockable : fifo.mutex.Lockable := .of_recursive recursive
  have ran : (BasicFIFOBuffer.read length).run fifo =
      .ok (min length fifo.used, fifo.content.take length)
        (Op.after fifo (.read length)) := by
    cases readable : fifo.isReadable with
    | false =>
        have empty := used_of_not_readable sound readable
        rw [run_read_empty length lockable readable]
        simp [Op.after, readable, empty, content_nil empty]
    | true =>
        by_cases positive : 0 < length
        · rw [run_read length sound recursive readable positive]
          simp [Op.after, readable, positive]
        · obtain rfl : length = 0 := by omega
          simp [BasicFIFOBuffer.read, Op.after]
  exact Exec.returns_map_ok _ ran

theorem settles_readBuffer (sound : Sound fifo) (recursive : fifo.mutex.recursive = true)
    (target : Buffer.Valid T) (length : Nat) : (Op.readBuffer target length).Settles fifo := by
  have lockable : fifo.mutex.Lockable := .of_recursive recursive
  cases readable : fifo.isReadable with
  | false =>
      simp only [Op.Settles, Op.answer, Op.after, State.fills, readable, Bool.false_eq_true,
        false_and, if_false]
      exact Exec.returns_map_ok _ (run_readBuffer_empty _ length lockable readable)
  | true =>
      cases owned : target.val.ownMem with
      | false =>
          simp only [Op.Settles, Op.answer, Op.after, State.fills, readable, owned,
            Bool.false_eq_true, and_false, if_true, if_false]
          exact Exec.returns_map_throw _
            (run_readBuffer_foreign _ length recursive readable owned)
      | true =>
          simp only [Op.Settles, Op.answer, Op.after, State.fills, readable, owned, and_self,
            if_true]
          exact Exec.returns_map_ok _
            (run_readBuffer length sound recursive target.property owned readable)

theorem settles_peekBuffer (sound : Sound fifo) (recursive : fifo.mutex.recursive = true)
    (target : Buffer.Valid T) (length : Nat) : (Op.peekBuffer target length).Settles fifo := by
  have lockable : fifo.mutex.Lockable := .of_recursive recursive
  cases readable : fifo.isReadable with
  | false =>
      simp only [Op.Settles, Op.answer, Op.after, State.fills, readable, Bool.false_eq_true,
        if_false]
      exact Exec.returns_map_ok _ (run_peekBuffer_empty _ length lockable readable)
  | true =>
      cases owned : target.val.ownMem with
      | false =>
          simp only [Op.Settles, Op.answer, Op.after, State.fills, readable, owned,
            Bool.false_eq_true, if_true, if_false]
          exact Exec.returns_map_throw _
            (run_peekBuffer_foreign fifo _ length lockable readable owned)
      | true =>
          simp only [Op.Settles, Op.answer, Op.after, State.fills, readable, owned, if_true]
          exact Exec.returns_map_ok _
            (run_peekBuffer length sound recursive target.property owned readable)

theorem settles_resize (sound : Sound fifo) (lockable : fifo.mutex.Lockable) {newSize : Nat}
    {preserveContent : Bool} (possible : (Op.resize newSize preserveContent).Possible fifo) :
    (Op.resize newSize preserveContent).Settles fifo := by
  by_cases loss : preserveContent = true ∧ newSize < fifo.used
  · obtain ⟨rfl, less⟩ := loss
    simp only [Op.Settles, Op.answer, Op.after, State.refusesResize, less, and_self, decide_true,
      Bool.true_and, Bool.true_or, if_true]
    exact Exec.returns_map_throw _ (run_resize_of_loss lockable less)
  · have kept : (preserveContent && decide (newSize < fifo.used)) = false := by
      cases preserveContent <;> simp_all
    cases owned : fifo.buffer.ownMem with
    | false =>
        simp only [Op.Settles, Op.answer, Op.after, State.refusesResize, loss, owned, kept,
          Bool.false_eq_true, Bool.not_false, Bool.or_true, if_true, if_false]
        exact Exec.returns_map_throw _ (run_resize_of_foreign lockable loss owned)
    | true =>
        have positive : 0 < newSize := by
          simpa [Op.Possible, State.refusesResize, kept, owned] using possible
        simp only [Op.Settles, Op.answer, Op.after, State.refusesResize, loss, owned, kept,
          Bool.false_eq_true, Bool.not_true, Bool.or_false, if_true, if_false]
        exact Exec.returns_map_ok _
          (run_resize sound.buffer lockable loss owned positive)

theorem settles_subscript (sound : Sound fifo) (lockable : fifo.mutex.Lockable) (index : Nat) :
    (Op.subscript index).Settles fifo := by
  have full := length_content sound
  by_cases within : index < fifo.used
  · obtain ⟨element, present⟩ : ∃ element, fifo.content[index]? = some element :=
      ⟨_, List.getElem?_eq_getElem (by omega)⟩
    have stored : fifo.buffer.cells[fifo.begin + index]? = some element := by
      rw [← Cells.getElem?_slice within]
      exact present
    rw [Op.Settles, Op.answer, present]
    exact Exec.returns_map_ok _ (run_subscript sound lockable within stored)
  · have absent : fifo.content[index]? = none :=
      List.getElem?_eq_none (by omega)
    rw [Op.Settles, Op.answer, absent]
    exact Exec.returns_map_throw _ (run_subscript_outside lockable within)

/-- The specification of every operation at once: on a sound buffer with a
re-entrant mutex it comes back, with the answer and the state given. -/
theorem returns_run (sound : Sound fifo) (recursive : fifo.mutex.recursive = true)
    (op : Op T) (possible : op.Possible fifo) :
    op.run.returns fifo = some (op.answer fifo, op.after fifo) := by
  have lockable : fifo.mutex.Lockable := .of_recursive recursive
  cases op with
  | write data => exact Exec.returns_map_ok _ (returns_write sound recursive data)
  | writeBuffer source length =>
      apply Exec.returns_map_ok
      rw [writeBuffer_eq]
      exact returns_write sound recursive _
  | copy data => exact settles_copy sound recursive data
  | fill data => exact settles_fill sound recursive possible
  | advance length => exact settles_advance sound recursive length
  | read length => exact settles_read sound recursive length
  | readBuffer target length => exact settles_readBuffer sound recursive target length
  | peek length => exact Exec.returns_map_ok _ (run_peek length sound lockable)
  | peekBuffer target length => exact settles_peekBuffer sound recursive target length
  | drain length => exact Exec.returns_map_ok _ (run_drain length lockable)
  | begin => exact Exec.returns_map_ok _ (run_begin sound lockable)
  | next => exact Exec.returns_map_ok _ (run_next sound recursive)
  | setError error =>
      cases error with
      | true => exact Exec.returns_map_ok _ (run_setError_true lockable)
      | false => exact Exec.returns_map_ok _ (run_setError_false lockable)
  | setEOF eof => exact Exec.returns_map_ok _ (run_setEOF eof lockable)
  | resize newSize preserveContent => exact settles_resize sound lockable possible
  | subscript index => exact settles_subscript sound lockable index

end

end BasicFIFOBuffer

end TestReactor
