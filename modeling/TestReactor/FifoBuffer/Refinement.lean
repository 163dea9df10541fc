import TestReactor.BoundedQueue
import TestReactor.FifoBuffer.Invariant

namespace TestReactor

namespace BasicFIFOBuffer

open BoundedQueue (Command Response)

/-! A buffer that is not resized refines a bounded queue of its content. -/

def abstraction (fifo : State T) (sound : Sound fifo) : BoundedQueue T where
  bound := fifo.size
  content := fifo.content
  ended := fifo.eof
  failed := fifo.error
  within := by
    rw [length_content sound]
    exact sound.used_le

def State.spare (fifo : State T) (length : Nat) : List T :=
  Cells.slice (fifo.roomed length).buffer.cells
    ((fifo.roomed length).begin + (fifo.roomed length).used) length

def Op.Fixed : Op T → Prop
  | .resize _ _ => False
  | _ => True

def State.wanted (fifo : State T) (length : Nat) : Nat :=
  if 0 = length then fifo.used else length

/-- Whether a target buffer takes what there is to read: one that does not own
its memory is resized in vain. -/
def State.fillable (fifo : State T) (target : Buffer T) : Bool :=
  !fifo.isReadable || target.ownMem

def Op.command (fifo : State T) : Op T → Command T
  | .write data => .offer data
  | .writeBuffer source length => .offer (State.offered source.val length)
  | .copy data => if data = [] then .rest else .append data
  | .fill data => .append data
  | .advance length =>
      if Accepts fifo length then .append (fifo.spare length) else .refuse
  | .read length => .remove length
  | .readBuffer target length =>
      if fifo.fillable target.val then .remove (fifo.wanted length) else .refuse
  | .peek length => .look length
  | .peekBuffer target length =>
      if fifo.fillable target.val then .look (fifo.wanted length) else .refuse
  | .drain length => .discard (fifo.wanted length)
  | .subscript index => if index < fifo.used then .rest else .refuse
  | .begin | .next | .resize _ _ => .rest
  | .setError error => .setFailed error
  | .setEOF eof => .setEnded eof

def response : Except String (Reply T) → Response T
  | .error _ => .refused
  | .ok (.count length) => .took length
  | .ok (.elements length data) => .gave length data
  | .ok (.filled length target) =>
      .gave length (if 0 = length then [] else target.elements)
  | .ok .done | .ok (.offset _) | .ok (.element _) => .done

section Content

variable {fifo : State T}

theorem content_roomed (length : Nat) (sound : Sound fifo) :
    (fifo.roomed length).content = fifo.content := by
  cases short : fifo.short length with
  | false => rw [roomed_of_fits fifo length short]
  | true =>
      rw [← content_compacted sound]
      simp [State.content, State.roomed, short]

theorem content_grown (length : Nat) (sound : Sound fifo) :
    ((fifo.roomed length).grown length).content = fifo.content ++ fifo.spare length := by
  rw [← content_roomed length sound]
  exact Cells.slice_add _ _ _ _

theorem length_spare {length : Nat} (sound : Sound fifo)
    (enough : length ≤ fifo.size - fifo.used) : (fifo.spare length).length = length := by
  have room := room_roomed sound enough
  exact Cells.length_slice (Nat.le_trans room (sound.roomed length).size_le)

theorem content_put {data : List T} (sound : Sound fifo)
    (room : data.length ≤ fifo.size - fifo.used) :
    (fifo.put data).content = fifo.content ++ data := by
  have within := sound.used_le
  unfold State.put
  split
  · rename_i empty
    rw [empty, List.append_nil]
  · rw [notified_content, content_appended sound.compacted rfl
      (by rw [compacted_used, compacted_size]; omega), content_compacted sound]

theorem put_fields (fifo : State T) (data : List T) :
    (fifo.put data).size = fifo.size ∧ (fifo.put data).eof = fifo.eof ∧
      (fifo.put data).error = fifo.error := by
  unfold State.put
  split
  · exact ⟨rfl, rfl, rfl⟩
  · exact ⟨by simp, rfl, rfl⟩

theorem content_drained_wanted (length : Nat) (sound : Sound fifo) :
    (fifo.drained length).content = fifo.content.drop (fifo.wanted length) := by
  rw [content_drained length sound, State.wanted]
  split
  · exact (List.drop_eq_nil_of_le (Nat.le_of_eq (length_content sound))).symm
  · rfl

end Content

section Abstraction

variable {fifo : State T} (sound : Sound fifo)

theorem abstraction_room : (abstraction fifo sound).room = fifo.size - fifo.used := by
  simp [BoundedQueue.room, abstraction, length_content sound]

theorem abstraction_writable : (abstraction fifo sound).writable = fifo.isWritable := by
  simp [BoundedQueue.writable, abstraction, length_content sound, State.isWritable,
    State.isFull, State.isValid]

theorem abstraction_fitting (data : List T) :
    (abstraction fifo sound).fitting data = fifo.accepted data := by
  rw [BoundedQueue.fitting, abstraction_writable, abstraction_room, State.accepted]

theorem abstraction_fits (data : List T) :
    (abstraction fifo sound).fits data = decide (Accepts fifo data.length) := by
  rw [BoundedQueue.fits, abstraction_writable, abstraction_room]
  cases writable : fifo.isWritable <;> simp [Accepts, writable]

theorem abstraction_put {data : List T} (sound' : Sound (fifo.put data))
    (room : data.length ≤ fifo.size - fifo.used) :
    (abstraction fifo sound).put data = abstraction (fifo.put data) sound' := by
  have fields := put_fields fifo data
  apply BoundedQueue.ext_fields fields.1.symm _ fields.2.1.symm fields.2.2.symm
  rw [BoundedQueue.content_put_of_le (by rw [abstraction_room]; exact room)]
  exact (content_put sound room).symm

theorem abstraction_drop {length : Nat} {next : State T} (sound' : Sound next)
    (same : next.size = fifo.size ∧ next.eof = fifo.eof ∧ next.error = fifo.error)
    (content : next.content = fifo.content.drop length) :
    (abstraction fifo sound).drop length = abstraction next sound' :=
  BoundedQueue.ext_fields same.1.symm content.symm same.2.1.symm same.2.2.symm

variable [Inhabited T]

theorem gave_of_fills (sound : Sound fifo) (target : Buffer T) (length : Nat)
    (wellFormed : target.WellFormed) (fillable : fifo.fillable target = true) :
    response (fifo.fills target length) =
      .gave (min (fifo.wanted length) fifo.content.length)
        (fifo.content.take (fifo.wanted length)) := by
  have full := length_content sound
  cases readable : fifo.isReadable with
  | false =>
      have empty := used_of_not_readable sound readable
      simp [State.fills, readable, response, content_nil empty]
  | true =>
      have nonempty := (isReadable_iff sound).mp readable
      have owned : target.ownMem = true := by
        simpa [State.fillable, readable] using fillable
      obtain ⟨positive, within⟩ := clampedOrAll_bounds fifo length nonempty
      have count : fifo.clampedOrAll length = min (fifo.wanted length) fifo.used := by
        rw [clampedOrAll_eq, State.wanted]
        split <;> omega
      have elements : (filled target
          (fifo.content.take (fifo.clampedOrAll length))).elements =
            fifo.content.take (fifo.clampedOrAll length) :=
        Buffer.elements_stored_of_length (wellFormed.resized _ _) (Buffer.used_resized _ _ _)
      simp only [State.fills, readable, owned, if_true, response, elements]
      rw [if_neg (by omega), count, full, ← full, ← List.take_take, List.take_length]

theorem refused_of_fills (target : Buffer T) (length : Nat)
    (foreign : fifo.fillable target = false) :
    response (fifo.fills target length) = .refused := by
  simp only [State.fillable, Bool.or_eq_false_iff, Bool.not_eq_false'] at foreign
  simp [State.fills, foreign.1, foreign.2, response]

/-- The queue carries out the command of the operation as the buffer does the operation, with
the same answer. -/
def Op.Matched (sound : Sound fifo) (op : Op T) : Prop :=
  ∀ sound' : Sound (op.after fifo), (abstraction fifo sound).apply (op.command fifo) =
    (response (op.answer fifo), abstraction (op.after fifo) sound')

theorem matched_copy (data : List T) : (Op.copy data).Matched sound := by
  intro sound'
  by_cases empty : data = []
  · subst empty
    simp [Op.command, BoundedQueue.apply, Op.answer, Op.after, State.put, response]
  · simp only [Op.command, empty, if_false, BoundedQueue.apply, abstraction_fits]
    by_cases accepts : Accepts fifo data.length
    · have after : Op.after fifo (.copy data) = fifo.put data := by
        simp [Op.after, accepts]
      simp only [after] at sound' ⊢
      simp only [accepts, decide_true, if_true, Op.answer, or_true]
      rw [abstraction_put sound sound' accepts.1]
      rfl
    · simp [Op.after, Op.answer, accepts, empty, response]

theorem matched_fill {data : List T} (enough : data.length ≤ fifo.size - fifo.used) :
    (Op.fill data).Matched sound := by
  intro sound'
  have within := sound.used_le
  have room : fifo.compacted.used + data.length ≤ fifo.compacted.size := by
    rw [compacted_used, compacted_size]
    omega
  simp only [Op.command, BoundedQueue.apply, abstraction_fits]
  cases writable : fifo.isWritable with
  | true =>
      simp only [Op.after, Op.answer, Accepts, enough, writable, and_self, decide_true,
        if_true, response, Prod.mk.injEq, true_and]
      apply BoundedQueue.ext_fields
      · exact ((appended_size _ _).trans (compacted_size _)).symm
      · rw [BoundedQueue.content_put_of_le (by rw [abstraction_room]; exact enough)]
        show _ = (fifo.compacted.appended data).content
        rw [content_appended sound.compacted rfl room, content_compacted sound]
        rfl
      · rfl
      · rfl
  | false =>
      simp only [Op.after, Op.answer, Accepts, writable, Bool.false_eq_true, and_false,
        decide_false, if_false, response, Prod.mk.injEq, true_and]
      apply BoundedQueue.ext_fields
      · exact ((staged_size _ _).trans (compacted_size _)).symm
      · show _ = (fifo.compacted.staged data).content
        rw [content_staged sound.compacted rfl room, content_compacted sound]
        rfl
      · rfl
      · rfl

theorem matched_advance (length : Nat) : (Op.advance length).Matched sound := by
  intro sound'
  by_cases accepts : Accepts fifo length
  · have spare := length_spare sound accepts.1
    simp only [Op.command, accepts, if_true, BoundedQueue.apply, abstraction_fits, spare,
      decide_true, Op.answer, Op.after, response, Prod.mk.injEq, true_and]
    apply BoundedQueue.ext_fields
    · exact (roomed_size fifo length).symm
    · rw [BoundedQueue.content_put_of_le
        (by rw [abstraction_room, spare]; exact accepts.1)]
      exact (content_grown length sound).symm
    · rfl
    · rfl
  · simp [Op.command, accepts, BoundedQueue.apply, Op.answer, Op.after, response]

theorem matched_read (length : Nat) : (Op.read length).Matched sound := by
  intro sound'
  have full := length_content sound
  simp only [Op.command, BoundedQueue.apply, Op.answer, response]
  refine Prod.ext ?_ ?_
  · simp [abstraction, full]
  · show (abstraction fifo sound).drop length = _
    by_cases reads : 0 < length ∧ fifo.isReadable = true
    · apply abstraction_drop sound sound'
      · simp [Op.after, reads]
      · have wanted : fifo.wanted length = length := by
          rw [State.wanted, if_neg (by omega)]
        simp only [Op.after, reads, and_self, if_true, notified_content]
        rw [content_drained_wanted length sound, wanted]
    · apply abstraction_drop sound sound'
      · simp [Op.after, reads]
      · simp only [Op.after, reads, if_false]
        by_cases positive : 0 < length
        · have empty := used_of_not_readable sound (by simpa [positive] using reads)
          rw [content_nil empty, List.drop_nil]
        · obtain rfl : length = 0 := by omega
          rfl

theorem matched_readBuffer (target : Buffer.Valid T) (length : Nat) :
    (Op.readBuffer target length).Matched sound := by
  intro sound'
  cases fillable : fifo.fillable target.val with
  | true =>
      simp only [Op.command, fillable, if_true, BoundedQueue.apply, Op.answer]
      rw [gave_of_fills sound target.val length target.property fillable]
      refine Prod.ext rfl ?_
      show (abstraction fifo sound).drop (fifo.wanted length) = _
      cases readable : fifo.isReadable with
      | true =>
          have owned : target.val.ownMem = true := by
            simpa [State.fillable, readable] using fillable
          apply abstraction_drop sound sound'
          · simp [Op.after, readable, owned]
          · simp only [Op.after, readable, owned, and_self, if_true, notified_content]
            exact content_drained_wanted length sound
      | false =>
          have empty := used_of_not_readable sound readable
          apply abstraction_drop sound sound'
          · simp [Op.after, readable]
          · simp [Op.after, readable, content_nil empty]
  | false =>
      have refused := refused_of_fills target.val length fillable
      have foreign : target.val.ownMem = false := by
        simp only [State.fillable, Bool.or_eq_false_iff] at fillable
        exact fillable.2
      simp [Op.command, fillable, BoundedQueue.apply, Op.answer, Op.after, refused,
        foreign]

theorem matched_peekBuffer (target : Buffer.Valid T) (length : Nat) :
    (Op.peekBuffer target length).Matched sound := by
  intro sound'
  cases fillable : fifo.fillable target.val with
  | true =>
      simp only [Op.command, fillable, if_true, BoundedQueue.apply, Op.answer]
      rw [gave_of_fills sound target.val length target.property fillable]
      rfl
  | false =>
      have refused := refused_of_fills target.val length fillable
      simp [Op.command, fillable, BoundedQueue.apply, Op.answer, Op.after, refused]

theorem matched_setError (error : Bool) : (Op.setError error).Matched sound := by
  intro sound'
  cases error with
  | true =>
      refine Prod.ext rfl (BoundedQueue.ext_fields rfl ?_ rfl rfl)
      show fifo.content.drop fifo.content.length = fifo.failed.content
      rw [List.drop_length, content_nil]
      rfl
  | false => exact Prod.ext rfl (BoundedQueue.ext_fields rfl rfl rfl rfl)

theorem matched_subscript (index : Nat) : (Op.subscript index).Matched sound := by
  intro sound'
  have full := length_content sound
  by_cases within : index < fifo.used
  · have present := List.getElem?_eq_getElem (l := fifo.content) (i := index) (by omega)
    simp [Op.command, within, BoundedQueue.apply, Op.answer, Op.after, present, response]
  · have absent : fifo.content[index]? = none := List.getElem?_eq_none (by omega)
    simp [Op.command, within, BoundedQueue.apply, Op.answer, Op.after, absent, response]

/-- One operation is one command of the queue, with the same answer. -/
theorem apply_command (op : Op T) (fixed : op.Fixed) (possible : op.Possible fifo)
    (sound' : Sound (op.after fifo)) :
    (abstraction fifo sound).apply (op.command fifo) =
      (response (op.answer fifo), abstraction (op.after fifo) sound') := by
  cases op with
  | write data | writeBuffer source length =>
      simp only [Op.command, BoundedQueue.apply, abstraction_fitting]
      rw [abstraction_put sound sound' (length_accepted_le _)]
      rfl
  | copy data => exact matched_copy sound data sound'
  | fill data => exact matched_fill sound possible sound'
  | advance length => exact matched_advance sound length sound'
  | read length => exact matched_read sound length sound'
  | readBuffer target length => exact matched_readBuffer sound target length sound'
  | peek length =>
      simp [Op.command, BoundedQueue.apply, Op.answer, Op.after, response, abstraction,
        length_content sound]
  | peekBuffer target length => exact matched_peekBuffer sound target length sound'
  | drain length =>
      refine Prod.ext rfl ?_
      exact abstraction_drop sound sound' ⟨rfl, rfl, rfl⟩ (content_drained_wanted length sound)
  | begin | next =>
      refine Prod.ext rfl (BoundedQueue.ext_fields ?_ ?_ rfl rfl)
      · exact (compacted_size fifo).symm
      · exact (content_compacted sound).symm
  | setError error => exact matched_setError sound error sound'
  | setEOF eof => exact Prod.ext rfl (BoundedQueue.ext_fields rfl rfl rfl rfl)
  | resize newSize preserveContent => exact fixed.elim
  | subscript index => exact matched_subscript sound index sound'

/-! Whole runs. -/

/-- A reply that tells the caller that nothing was done.  A refused fill has
written behind the content all the same. -/
def Op.Spares : Op T → Except String (Reply T) → Prop
  | .fill _, _ => False
  | _, .error _ => True
  | _, .ok (.count length) => length = 0
  | _, _ => False

omit [Inhabited T] in
theorem mutex_put (data : List T) : (fifo.put data).mutex = fifo.mutex := by
  unfold State.put
  split <;> rfl

theorem mutex_after (op : Op T) : (op.after fifo).mutex = fifo.mutex := by
  cases op with
  | write data => exact mutex_put _
  | writeBuffer source length => exact mutex_put _
  | copy data =>
      simp only [Op.after]
      split
      · exact mutex_put data
      · rfl
  | setError error => cases error <;> rfl
  | drain | begin | next | setEOF | peek | peekBuffer | subscript => rfl
  | fill | advance | read | readBuffer | resize =>
      simp only [Op.after]
      split <;> rfl

theorem after_of_spares (op : Op T) (spares : op.Spares (op.answer fifo)) :
    op.after fifo = fifo := by
  cases op with
  | write data =>
      have none : (fifo.accepted data).length = 0 := spares
      rw [Op.after, List.length_eq_zero_iff.mp none]
      rfl
  | writeBuffer source length =>
      have none : (fifo.accepted (State.offered source.val length)).length = 0 := spares
      rw [Op.after, List.length_eq_zero_iff.mp none]
      rfl
  | copy data =>
      by_cases accepts : Accepts fifo data.length
      · simp [Op.answer, accepts, Op.Spares] at spares
      · simp [Op.after, accepts]
  | advance length =>
      by_cases accepts : Accepts fifo length
      · simp [Op.answer, accepts, Op.Spares] at spares
      · simp [Op.after, accepts]
  | readBuffer target length =>
      cases readable : fifo.isReadable <;> cases owned : target.val.ownMem <;>
        simp_all [Op.after, Op.answer, State.fills, Op.Spares]
  | resize newSize preserveContent =>
      cases refused : fifo.refusesResize newSize preserveContent with
      | true => simp [Op.after, refused]
      | false =>
          simp only [State.refusesResize, Bool.or_eq_false_iff, Bool.and_eq_false_iff,
            decide_eq_false_iff_not, Bool.not_eq_false'] at refused
          have kept : ¬ (preserveContent = true ∧ newSize < fifo.used) := by
            rintro ⟨rfl, less⟩
            simp_all
          simp [Op.answer, kept, refused.2, Op.Spares] at spares
  | peek | peekBuffer | subscript => rfl
  | fill | read | drain | begin | next | setError | setEOF => exact spares.elim

structure Refines (fifo : State T) (sound : Sound fifo) : Prop where
  operation : ∀ op : Op T, op.Fixed → op.Possible fifo →
    ∃ result next, ∃ sound' : Sound next,
      op.run.returns fifo = some (result, next) ∧
      (abstraction fifo sound).apply (op.command fifo) =
        (response result, abstraction next sound') ∧
      (op.Spares result → next = fifo)

theorem refines (recursive : fifo.mutex.recursive = true) : Refines fifo sound := by
  constructor
  intro op fixed possible
  have keeps : KeepsInside fifo op := by
    cases op with
    | resize newSize preserveContent => exact fixed.elim
    | _ => trivial
  exact ⟨op.answer fifo, op.after fifo, sound.after op possible keeps,
    returns_run sound recursive op possible,
    apply_command sound op fixed possible _, after_of_spares op⟩

def commands (fifo : State T) (ops : List (Op T)) : List (Command T) :=
  Runs.collect step (fun fifo op => [op.command fifo]) fifo ops

end Abstraction

/-- Every run without a resize is a run of the queue: the elements that were
accepted are those that were removed followed by the content. -/
theorem refines_queue [Inhabited T] (construction : Construction T) (notify : Bool)
    (ops : List (Op T)) (fixed : ∀ op ∈ ops, op.Fixed) {fifo : State T}
    (reached : Runs.exec step (construction.build true notify) ops = some fifo) :
    ∃ sound : Sound fifo,
      abstraction fifo sound =
        (abstraction _ (sound_build construction true notify)).perform
          (commands (construction.build true notify) ops) ∧
      (construction.build true notify).content ++
          BoundedQueue.trace BoundedQueue.accepted
            (abstraction _ (sound_build construction true notify))
            (commands (construction.build true notify) ops) =
        BoundedQueue.trace BoundedQueue.removed
            (abstraction _ (sound_build construction true notify))
            (commands (construction.build true notify) ops) ++ fifo.content ∧
      Refines fifo sound := by
  have start := sound_build construction true notify
  have recursive : (construction.build true notify).mutex.recursive = true := by
    cases construction <;> rfl
  obtain ⟨⟨sound, recursive⟩, matched⟩ := Runs.exec_simulated
    (fun queue => rfl) BoundedQueue.perform_append
    (fun (fifo : State T) (holds : Sound fifo ∧ fifo.mutex.recursive = true) =>
      abstraction fifo holds.1)
    (fun fifo op => [op.command fifo]) Op.Fixed
    (fun fifo op next holds fixed stepped => by
      obtain ⟨sound, recursive⟩ := holds
      obtain ⟨possible, _⟩ := after_of_step sound stepped
      obtain ⟨result, last, sound', returned, applied, _⟩ :=
        (refines sound recursive).operation op fixed possible
      have after := returns_run sound recursive op possible
      rw [returned] at after
      obtain ⟨_, rfl⟩ := Prod.mk.inj (Option.some.inj after)
      have same : op.after fifo = next := by simpa [step, returned] using stepped
      subst same
      refine ⟨⟨sound', by rw [mutex_after]; exact recursive⟩, ?_⟩
      exact (congrArg Prod.snd applied).symm)
    ⟨start, recursive⟩ fixed reached
  refine ⟨sound, matched, ?_, refines sound recursive⟩
  have conserved := BoundedQueue.conserves_run (abstraction _ start)
    (commands (construction.build true notify) ops)
  have last := congrArg BoundedQueue.content matched
  rw [commands] at conserved ⊢
  rw [← last] at conserved
  exact conserved

theorem refines_queue_of_three_bytes :
    ∃ fifo : State UInt8,
      Runs.exec step ((Construction.ofSize 4).build true true)
        [.write [1, 2, 3], .read 2] = some fifo ∧
      fifo.content = [3] ∧ ∃ sound : Sound fifo, Refines fifo sound := by
  refine ⟨_, rfl, rfl, ?_⟩
  obtain ⟨sound, _, _, refines⟩ := refines_queue (T := UInt8) (.ofSize 4) true
    [.write [1, 2, 3], .read 2] (by simp [Op.Fixed]) rfl
  exact ⟨sound, refines⟩

/-- A target that does not own its memory receives nothing, though there are two
bytes to read. -/
theorem read_into_foreign_memory :
    ((Construction.ofCopy [1, 2]).build true false : State UInt8).content = [1, 2] ∧
      (Op.readBuffer ⟨Buffer.ofMemory [0, 0], ⟨rfl, Nat.le_refl _⟩⟩ 0).run.returns
          ((Construction.ofCopy [1, 2]).build true false : State UInt8) =
        some (.error "Cannot resize buffer which does not own its storage.",
          (Construction.ofCopy [1, 2]).build true false) :=
  ⟨rfl, rfl⟩

end BasicFIFOBuffer

end TestReactor
