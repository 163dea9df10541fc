import TestReactor.FifoBuffer.Simulation

namespace TestReactor

namespace BasicFIFOBuffer

/-! Which runs keep the content inside the buffer. -/

/-- `_begin + _used <= _buffer.size()`, with what hangs on it: the subtractions
of `write` and `advance` do not wrap, and no call touches a cell outside the
buffer or fails an assertion. -/
structure Contained [Inhabited T] (fifo : State T) : Prop where
  inside : fifo.begin + fifo.used ≤ fifo.size
  behind : SizeT.sub fifo.size (fifo.begin + fifo.used) + (fifo.begin + fifo.used) =
    fifo.size
  free : SizeT.sub (SizeT.sub fifo.size fifo.used) fifo.begin + fifo.begin + fifo.used =
    fifo.size
  safe : ∀ op : Op T, op.Possible fifo → ∀ next,
    op.run.run fifo ≠ .error .fault next ∧ op.run.run fifo ≠ .error .abort next

/-- `resize` keeps `_begin`, so the new size must have room for the content
where it stands, or for `_begin` alone when the content is dropped. -/
def KeepsInside (fifo : State T) : Op T → Prop
  | .resize newSize preserveContent =>
      fifo.refusesResize newSize preserveContent = true ∨
        fifo.begin + (if preserveContent then fifo.used else 0) ≤ newSize
  | _ => True

section Soundness

variable {fifo : State T}

theorem Sound.relocked (sound : Sound fifo) : Sound fifo.relocked :=
  ⟨sound.buffer, sound.inside, sound.error_empty⟩

theorem Sound.of_relocked (sound : Sound fifo.relocked) : Sound fifo :=
  ⟨sound.buffer, sound.inside, sound.error_empty⟩

theorem Sound.put {data : List T} (sound : Sound fifo)
    (room : data.length ≤ fifo.size - fifo.used)
    (valid : data ≠ [] → fifo.error = false) : Sound (fifo.put data) := by
  have within := sound.used_le
  unfold State.put
  split
  · exact sound
  · rename_i nonempty
    apply Sound.notified
    apply sound.compacted.appended data rfl _ (valid nonempty)
    rw [compacted_used, compacted_size]
    omega

theorem valid_of_accepted {data : List T} (taken : fifo.accepted data ≠ []) :
    fifo.error = false := by
  apply valid_of_writable
  cases writable : fifo.isWritable with
  | true => rfl
  | false => simp [State.accepted, writable] at taken

end Soundness

section

variable [Inhabited T]

theorem sound_build (construction : Construction T) (recursive notify : Bool) :
    Sound (construction.build recursive notify) := by
  cases construction with
  | ofSize size =>
      refine ⟨⟨?_, Nat.le_refl _⟩, Nat.zero_le _, fun _ => rfl⟩
      cases size with
      | zero => rfl
      | succ size => exact (List.length_replicate ..).symm
  | ofMemory memory => exact ⟨⟨rfl, Nat.le_refl _⟩, Nat.zero_le _, fun _ => rfl⟩
  | ofCopy memory =>
      refine ⟨⟨?_, Nat.le_refl _⟩, Nat.le_of_eq (Nat.zero_add _), ?_⟩
      · cases memory <;> rfl
      · intro error
        cases error

variable {fifo : State T}

/-- What a step that keeps the content inside makes of a sound buffer. -/
theorem Sound.after (sound : Sound fifo) (op : Op T) (possible : op.Possible fifo)
    (keeps : KeepsInside fifo op) : Sound (op.after fifo) := by
  have within := sound.used_le
  cases op with
  | write data => exact sound.put (length_accepted_le data) valid_of_accepted
  | writeBuffer source length =>
      exact sound.put (length_accepted_le _) valid_of_accepted
  | copy data =>
      simp only [Op.after]
      split
      · rename_i accepts
        exact sound.put accepts.1 fun _ => valid_of_writable accepts.2
      · exact sound
  | fill data =>
      have room : fifo.compacted.used + data.length ≤ fifo.compacted.size := by
        rw [compacted_used, compacted_size]
        have enough : data.length ≤ fifo.size - fifo.used := possible
        omega
      simp only [Op.after]
      split
      · rename_i writable
        have valid := valid_of_writable writable
        exact (sound.compacted.appended data rfl room valid).notified
      · exact sound.compacted.staged data room
  | advance length =>
      simp only [Op.after]
      split
      · rename_i accepts
        have valid := valid_of_writable accepts.2
        exact ((sound.roomed length).grown (room_roomed sound accepts.1) valid).notified
      · exact sound
  | read length =>
      simp only [Op.after]
      split
      · exact (sound.drained length).notified
      · exact sound
  | readBuffer target length =>
      simp only [Op.after]
      split
      · exact (sound.drained length).notified
      · exact sound
  | peek length => exact sound
  | peekBuffer target length => exact sound
  | drain length => exact (sound.drained length).notified
  | begin => exact sound.compacted
  | next => exact sound.compacted
  | setError error =>
      have inside := sound.inside
      cases error with
      | true => exact ⟨sound.buffer, Nat.le_trans (Nat.le_add_right _ _) inside, fun _ => rfl⟩
      | false => exact ⟨sound.buffer, inside, fun failed => absurd failed Bool.false_ne_true⟩
  | setEOF eof => exact ⟨sound.buffer, sound.inside, sound.error_empty⟩
  | resize newSize preserveContent =>
      simp only [Op.after]
      split
      · exact sound
      · rename_i accepted
        have fits := keeps.resolve_left accepted
        apply Sound.notified
        refine ⟨sound.buffer.resized _ _, ?_, ?_⟩
        · simp only [State.size, Buffer.size, State.resized, Buffer.used_resized]
          cases preserveContent <;> simpa using fits
        · intro error
          cases preserveContent with
          | true => exact sound.error_empty error
          | false => rfl
  | subscript index => exact sound

/-- The calls that do not come back on a sound buffer. -/
theorem returns_impossible (sound : Sound fifo) (recursive : fifo.mutex.recursive = true)
    (op : Op T) (impossible : ¬ op.Possible fifo) : op.run.returns fifo = none := by
  cases op with
  | fill data =>
      have exceeds : ¬ data.length ≤ fifo.size - fifo.used := impossible
      have filled := run_fill_over data sound.used_le (by omega)
      simp [Exec.returns, Op.run, filled]
  | resize newSize preserveContent =>
      have none : fifo.refusesResize newSize preserveContent = false ∧ newSize = 0 := by
        simpa [Op.Possible] using impossible
      obtain ⟨accepted, rfl⟩ := none
      have ran := run_resize_of_zero preserveContent
        (.of_recursive recursive) accepted
      simp [Exec.returns, Op.run, ran]
  | write | writeBuffer | copy | advance | read | readBuffer | peek | peekBuffer
  | drain | begin | next | setError | setEOF | subscript => exact absurd trivial impossible

/-- The step lemma: with either kind of mutex a call that comes back leaves the
state that the closed form gives. -/
theorem after_of_step (sound : Sound fifo) {op : Op T} {next : State T}
    (stepped : step fifo op = some next) :
    op.Possible fifo ∧ next.relocked = op.after fifo.relocked := by
  obtain ⟨⟨result, last⟩, returned, rfl⟩ := Option.map_eq_some_iff.mp stepped
  have again := (simulates_run op).returns returned
  by_cases possible : op.Possible fifo
  · rw [returns_run sound.relocked rfl op possible] at again
    obtain ⟨_, after⟩ := Prod.mk.inj (Option.some.inj again)
    exact ⟨possible, after.symm⟩
  · rw [returns_impossible sound.relocked rfl op possible] at again
    contradiction

theorem sound_step (sound : Sound fifo) {op : Op T} {next : State T}
    (stepped : step fifo op = some next) (keeps : KeepsInside fifo op) : Sound next := by
  obtain ⟨possible, after⟩ := after_of_step sound stepped
  apply Sound.of_relocked
  rw [after]
  exact sound.relocked.after op possible keeps

theorem keeps_of_inside (sound : Sound fifo) {op : Op T} {next : State T}
    (stepped : step fifo op = some next) (inside : next.begin + next.used ≤ next.size) :
    KeepsInside fifo op := by
  obtain ⟨possible, after⟩ := after_of_step sound stepped
  cases op with
  | resize newSize preserveContent =>
      cases refused : fifo.refusesResize newSize preserveContent with
      | true => exact .inl refused
      | false =>
          have same : next.relocked =
              ((fifo.relocked.resized newSize preserveContent).notified fifo.used) := by
            rw [after, Op.after, if_neg]
            · rfl
            · rw [show fifo.relocked.refusesResize newSize preserveContent = false
                from refused]
              exact Bool.false_ne_true
          have inside : next.relocked.begin + next.relocked.used ≤ next.relocked.size :=
            inside
          rw [same, notified_size, notified_begin, notified_used] at inside
          simp only [State.size, Buffer.size, State.resized, Buffer.used_resized] at inside
          refine .inr ?_
          cases preserveContent <;> exact inside
  | write | writeBuffer | copy | fill | advance | read | readBuffer | peek | peekBuffer
  | drain | begin | next | setError | setEOF | subscript => trivial

theorem Sound.contained (sound : Sound fifo) : Contained fifo := by
  have inside := sound.inside
  have within := sound.used_le
  refine ⟨inside, ?_, ?_, ?_⟩
  · rw [SizeT.sub_of_le inside]
    omega
  · rw [SizeT.sub_of_le within, SizeT.sub_of_le (by omega)]
    omega
  · intro op possible next
    have returned := returns_run sound.relocked rfl op possible
    constructor
    · intro crashed
      have again := (simulates_run op).crashes crashed (by decide)
      simp [Exec.returns, again] at returned
    · intro crashed
      have again := (simulates_run op).crashes crashed (by decide)
      simp [Exec.returns, again] at returned

/-- The content stays inside the buffer throughout exactly the runs in which no
`resize` shrinks the buffer below the place where the content stands. -/
theorem contained_iff_keeps_inside (construction : Construction T)
    (recursive notify : Bool) (ops : List (Op T)) :
    Contained (construction.build recursive notify) ∧
      (Runs.Always step Contained (construction.build recursive notify) ops ↔
        Runs.Each step KeepsInside (construction.build recursive notify) ops) := by
  have start := sound_build construction recursive notify
  refine ⟨start.contained, ?_⟩
  exact Runs.always_iff_each Sound
    (fun fifo op next sound stepped keeps => sound_step sound stepped keeps)
    (fun fifo sound => sound.contained)
    (fun fifo op next sound stepped contained =>
      keeps_of_inside sound stepped contained.inside)
    start

end

/-- Eight bytes of which six are drained: the two left stand at offset six, and
a resize to four leaves them outside the buffer, where `operator[]` aborts. -/
theorem resize_leaves_content_outside :
    ∃ fifo : State UInt8,
      Runs.exec step ((Construction.ofCopy [1, 2, 3, 4, 5, 6, 7, 8]).build false false)
        [.drain 6, .resize 4 true] = some fifo ∧
      fifo.size < fifo.begin + fifo.used ∧
      SizeT.sub fifo.size (fifo.begin + fifo.used) = 2 ^ 64 - 4 ∧
      (Op.subscript 0).run.run fifo = .error .abort fifo.entered :=
  ⟨_, rfl, by decide, by decide, rfl⟩

end BasicFIFOBuffer

end TestReactor
