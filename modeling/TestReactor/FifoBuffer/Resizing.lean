import TestReactor.FifoBuffer.Refinement

namespace TestReactor

namespace BasicFIFOBuffer

open BoundedQueue (Change Response)

/-! Runs with resizes: the buffer is a queue whose bound changes. -/

/-- What an operation does to the queue; a buffer that does not own its memory keeps its
size. -/
def Op.change (fifo : State T) : Op T → Change T
  | .resize newSize preserveContent =>
      if fifo.buffer.ownMem then .rebound newSize preserveContent else .command .refuse
  | op => .command (op.command fifo)

theorem change_of_fixed (fifo : State T) {op : Op T} (fixed : op.Fixed) :
    op.change fifo = .command (op.command fifo) := by
  cases op with
  | resize => exact fixed.elim
  | _ => rfl

theorem change_relocked (fifo : State T) (op : Op T) :
    op.change fifo.relocked = op.change fifo := by
  cases op <;> rfl

section Resized

variable [Inhabited T] {fifo : State T}

theorem slice_cells_resized {buffer : Buffer T} {start count : Nat} (newCapacity : Nat)
    (wellFormed : buffer.WellFormed) (within : start + count ≤ buffer.used) :
    Cells.slice (buffer.resized newCapacity true).cells start count =
      Cells.slice buffer.cells start count := by
  have capacity := wellFormed.capacity_eq
  have used := wellFormed.used_le
  have elements : (if buffer.ptr.isSome then buffer.elements else []) = buffer.elements := by
    cases allocated : buffer.ptr with
    | some memory => rfl
    | none => simp [Buffer.elements, Buffer.cells, allocated]
  have length : buffer.elements.length = buffer.used := by
    rw [Buffer.elements, List.length_take]
    omega
  unfold Buffer.resized
  split
  · calc Cells.slice (Cells.overwrite (Buffer.newArray newCapacity) 0
            (if true && buffer.ptr.isSome then buffer.elements else [])) start count
        = Cells.slice (Cells.overwrite (Buffer.newArray newCapacity) 0 buffer.elements)
            start count := by rw [Bool.true_and, elements]
      _ = Cells.slice buffer.elements start count :=
          Cells.slice_overwrite_front (by omega)
      _ = Cells.slice buffer.cells start count := Cells.slice_take within
  · rfl

theorem content_resized (sound : Sound fifo) (newSize : Nat) (preserveContent : Bool) :
    (fifo.resized newSize preserveContent).content =
      if preserveContent then fifo.content else [] := by
  cases preserveContent with
  | true => exact slice_cells_resized newSize sound.buffer sound.inside
  | false => exact Cells.slice_zero _ _

theorem change_resize (sound : Sound fifo) (newSize : Nat) (preserveContent : Bool)
    (sound' : Sound (Op.after fifo (.resize newSize preserveContent))) :
    (abstraction fifo sound).change (Op.change fifo (.resize newSize preserveContent)) =
      (response (Op.answer fifo (.resize newSize preserveContent)),
        abstraction _ sound') := by
  have full := length_content sound
  have crowded : (abstraction fifo sound).crowded newSize preserveContent =
      (preserveContent && decide (newSize < fifo.used)) := by
    rw [BoundedQueue.crowded, abstraction, full]
  cases owned : fifo.buffer.ownMem with
  | false =>
      have refused : fifo.refusesResize newSize preserveContent = true := by
        simp [State.refusesResize, owned]
      have answer : response (Op.answer fifo (.resize newSize preserveContent)) =
          .refused := by
        simp only [Op.answer, owned]
        split <;> rfl
      simp [Op.change, owned, BoundedQueue.change, BoundedQueue.apply, Op.after, refused, answer]
  | true =>
      have refuses : fifo.refusesResize newSize preserveContent =
          (preserveContent && decide (newSize < fifo.used)) := by
        simp [State.refusesResize, owned]
      simp only [Op.change, owned, if_true, BoundedQueue.change, crowded]
      cases loses : preserveContent && decide (newSize < fifo.used) with
      | true =>
          have lost : preserveContent = true ∧ newSize < fifo.used := by simpa using loses
          have after : Op.after fifo (.resize newSize preserveContent) = fifo := by
            rw [Op.after, refuses, loses]
            rfl
          simp only [after] at sound' ⊢
          simp [Op.answer, lost, response]
      | false =>
          have fits : ¬ (preserveContent = true ∧ newSize < fifo.used) := by simpa using loses
          have after : Op.after fifo (.resize newSize preserveContent) =
              (fifo.resized newSize preserveContent).notified fifo.used := by
            rw [Op.after, refuses, loses]
            rfl
          have content := content_resized sound newSize preserveContent
          simp only [after] at sound' ⊢
          refine Prod.ext ?_ (BoundedQueue.ext_fields ?_ ?_ rfl rfl)
          · simp [Op.answer, fits, owned, response]
          · exact (Buffer.used_resized _ _ _).symm
          · show (if preserveContent then fifo.content.take newSize else []) = _
            refine Eq.trans ?_ content.symm
            cases preserveContent with
            | false => rfl
            | true =>
                have enough : fifo.content.length ≤ newSize := by
                  rw [full]
                  exact Nat.le_of_not_lt fun less => fits ⟨rfl, less⟩
                exact List.take_of_length_le enough

theorem change_op (sound : Sound fifo) (op : Op T) (possible : op.Possible fifo)
    (sound' : Sound (op.after fifo)) :
    (abstraction fifo sound).change (op.change fifo) =
      (response (op.answer fifo), abstraction (op.after fifo) sound') := by
  cases op with
  | resize newSize preserveContent => exact change_resize sound newSize preserveContent sound'
  | write | writeBuffer | copy | fill | advance | read | readBuffer | peek | peekBuffer
  | drain | begin | next | setError | setEOF | subscript =>
      rw [change_of_fixed fifo (by trivial)]
      exact apply_command sound _ (by trivial) possible sound'

/-- What holds of a buffer that follows such a queue: every call that comes back, and leaves
the content room where it stands, answers as the queue does and does the same to the content;
with a re-entrant mutex every call comes back. -/
structure Follows (fifo : State T) (sound : Sound fifo) : Prop where
  returns : fifo.mutex.recursive = true → ∀ op : Op T, op.Possible fifo →
    ∃ result next, op.run.returns fifo = some (result, next)
  call : ∀ op : Op T, KeepsInside fifo op → ∀ result next,
    op.run.returns fifo = some (result, next) →
    ∃ sound' : Sound next,
      (abstraction fifo sound).change (op.change fifo) =
        (response result, abstraction next sound')

/-- With either kind of mutex, for what comes back is the same with both. -/
theorem follows (sound : Sound fifo) : Follows fifo sound where
  returns recursive op possible :=
    ⟨op.answer fifo, op.after fifo, returns_run sound recursive op possible⟩
  call op keeps result next returned := by
    have again := (simulates_run op).returns returned
    by_cases possible : op.Possible fifo.relocked
    · rw [returns_run sound.relocked rfl op possible] at again
      obtain ⟨rfl, after⟩ := Prod.mk.inj (Option.some.inj again)
      have sound' := sound.relocked.after op possible keeps
      have changed := change_op sound.relocked op possible sound'
      have relocked : Sound next.relocked := after ▸ sound'
      refine ⟨relocked.of_relocked, ?_⟩
      have same : abstraction (op.after fifo.relocked) sound' =
          abstraction next relocked.of_relocked := by
        simp only [after]
        rfl
      rw [same, change_relocked] at changed
      exact changed
    · rw [returns_impossible sound.relocked rfl op possible] at again
      contradiction

theorem step_follows (sound : Sound fifo) {op : Op T} {next : State T}
    (stepped : step fifo op = some next) (keeps : KeepsInside fifo op) :
    ∃ sound' : Sound next,
      Runs.exec BoundedQueue.step (abstraction fifo sound) [op.change fifo] =
        some (abstraction next sound') := by
  obtain ⟨⟨result, last⟩, returned, rfl⟩ := Option.map_eq_some_iff.mp stepped
  obtain ⟨sound', changed⟩ := (follows sound).call op keeps result last returned
  refine ⟨sound', ?_⟩
  show some ((abstraction fifo sound).change (op.change fifo)).2 = _
  rw [changed]

def changes (fifo : State T) (ops : List (Op T)) : List (Change T) :=
  Runs.collect step (fun fifo op => [op.change fifo]) fifo ops

/-- A run in which every resize leaves the content room where it stands is a run of the
queue whose bound changes: what was put in is what was taken out, by a reader or by a resize
that drops the content, followed by what is there. -/
theorem resizing_refines_queue (construction : Construction T) (recursive notify : Bool)
    (ops : List (Op T))
    (keeps : Runs.Each step KeepsInside (construction.build recursive notify) ops)
    {fifo : State T}
    (reached : Runs.exec step (construction.build recursive notify) ops = some fifo) :
    ∃ sound : Sound fifo,
      Runs.exec BoundedQueue.step
          (abstraction _ (sound_build construction recursive notify))
          (changes (construction.build recursive notify) ops) =
        some (abstraction fifo sound) ∧
      (construction.build recursive notify).content ++
          Runs.collect BoundedQueue.step BoundedQueue.enters
            (abstraction _ (sound_build construction recursive notify))
            (changes (construction.build recursive notify) ops) =
        Runs.collect BoundedQueue.step BoundedQueue.leaves
            (abstraction _ (sound_build construction recursive notify))
            (changes (construction.build recursive notify) ops) ++ fifo.content ∧
      Follows fifo sound := by
  obtain ⟨sound, matched⟩ := keeps.simulated abstraction
    (fun fifo op => [op.change fifo])
    (fun fifo op next sound stepped kept => step_follows sound stepped kept)
    (sound_build construction recursive notify) reached
  exact ⟨sound, matched, Runs.exec_balances BoundedQueue.balances matched, follows sound⟩

end Resized

/-- A full buffer of three bytes that grows to four takes one byte of two. -/
theorem resizing_refines_queue_of_growth :
    ∃ fifo : State UInt8,
      Runs.exec step ((Construction.ofCopy [(1 : UInt8), 2, 3]).build true true)
        [.resize 4 true, .write [4, 5], .drain 2] = some fifo ∧
      fifo.content = [3, 4] ∧ ∃ sound : Sound fifo, Follows fifo sound := by
  have keeps : Runs.Each step KeepsInside
      ((Construction.ofCopy [(1 : UInt8), 2, 3]).build true true)
      [.resize 4 true, .write [4, 5], .drain 2] :=
    fun _ _ => ⟨.inr (by decide), fun _ _ => ⟨trivial, fun _ _ => ⟨trivial, trivial⟩⟩⟩
  obtain ⟨fifo, reached, content⟩ : ∃ fifo,
      Runs.exec step ((Construction.ofCopy [(1 : UInt8), 2, 3]).build true true)
        [.resize 4 true, .write [4, 5], .drain 2] = some fifo ∧ fifo.content = [3, 4] :=
    ⟨_, rfl, rfl⟩
  obtain ⟨sound, _, _, follows⟩ := resizing_refines_queue _ _ _ _ keeps reached
  exact ⟨fifo, reached, content, sound, follows⟩

end BasicFIFOBuffer

end TestReactor
