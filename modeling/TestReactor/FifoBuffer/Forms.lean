import TestReactor.Buffer.Spec
import TestReactor.FifoBuffer

namespace TestReactor

namespace BasicFIFOBuffer

/-! What the operations make of a buffer, in closed form. -/

namespace State

def entered (fifo : State T) : State T := { fifo with mutex := fifo.mutex.enter }

def compacted (fifo : State T) : State T :=
  { fifo with
    buffer := if fifo.begin = 0 then fifo.buffer
      else fifo.buffer.movedToFront fifo.begin fifo.used
    begin := 0 }

def short (fifo : State T) (length : Nat) : Bool :=
  decide (fifo.size - (fifo.begin + fifo.used) < length)

def roomed (fifo : State T) (length : Nat) : State T :=
  { fifo with
    buffer := if fifo.short length then fifo.compacted.buffer else fifo.buffer
    begin := if fifo.short length then 0 else fifo.begin }

/-- `data` stored from the cell behind the content on, which must start at the
first cell. -/
def staged (fifo : State T) (data : List T) : State T :=
  { fifo with buffer := fifo.buffer.stored fifo.used data }

def appended (fifo : State T) (data : List T) : State T :=
  { fifo with
    buffer := fifo.buffer.stored fifo.used data
    used := fifo.used + data.length }

def grown (fifo : State T) (length : Nat) : State T :=
  { fifo with used := fifo.used + length }

def exhausted (fifo : State T) (length : Nat) : Bool :=
  decide (0 = length ∨ length ≥ fifo.used)

/-- The first `length` elements gone, or all of them for `length = 0`. -/
def drained (fifo : State T) (length : Nat) : State T :=
  { fifo with
    begin := if fifo.exhausted length then 0 else fifo.begin + length
    used := if fifo.exhausted length then 0 else fifo.used - length }

def edge (fifo : State T) (signal : Signal) (rises falls : Bool) : List Emission :=
  if rises then [⟨signal, true, fifo.begin, fifo.used⟩]
  else if falls then [⟨signal, false, fifo.begin, fifo.used⟩]
  else []

/-- What `notify(usedBefore)` raises: at most one edge of each signal. -/
def edges (fifo : State T) (usedBefore : Nat) : List Emission :=
  fifo.edge .readable (usedBefore = 0 ∧ fifo.used > 0)
      (usedBefore > 0 ∧ 0 = fifo.used) ++
    fifo.edge .writable (usedBefore = fifo.size ∧ fifo.used < fifo.size)
      (usedBefore < fifo.size ∧ fifo.used = fifo.size)

def notified (fifo : State T) (usedBefore : Nat) : State T :=
  { fifo with
    emitted := if fifo.notify then fifo.emitted ++ fifo.edges usedBefore
      else fifo.emitted }

def failed (fifo : State T) : State T :=
  { fifo with
    error := true
    used := 0
    emitted := fifo.emitted ++
      fifo.edge .readable false (fifo.isReadable && fifo.notify) ++
      fifo.edge .writable false (fifo.isWritable && fifo.notify) }

def recovered (fifo : State T) : State T :=
  { fifo with
    error := false
    emitted := fifo.emitted ++ fifo.edge .writable (fifo.notify && !fifo.eof) false }

def ended (fifo : State T) (eof : Bool) : State T :=
  { fifo with
    eof := eof
    emitted := fifo.emitted ++
      fifo.edge .writable (fifo.notify && !eof) (fifo.notify && eof) }

def refusesResize (fifo : State T) (newSize : Nat) (preserveContent : Bool) : Bool :=
  preserveContent && decide (newSize < fifo.used) || !fifo.buffer.ownMem

def resized [Inhabited T] (fifo : State T) (newSize : Nat) (preserveContent : Bool) :
    State T :=
  { fifo with
    buffer := fifo.buffer.resized newSize preserveContent
    used := if preserveContent then fifo.used else 0 }

end State

section Fields

variable (fifo : State T) (data : List T) (length usedBefore : Nat)

@[simp] theorem entered_buffer : fifo.entered.buffer = fifo.buffer := rfl
@[simp] theorem entered_begin : fifo.entered.begin = fifo.begin := rfl
@[simp] theorem entered_used : fifo.entered.used = fifo.used := rfl
@[simp] theorem entered_mutex : fifo.entered.mutex = fifo.mutex.enter := rfl
@[simp] theorem entered_notify : fifo.entered.notify = fifo.notify := rfl
@[simp] theorem entered_eof : fifo.entered.eof = fifo.eof := rfl
@[simp] theorem entered_error : fifo.entered.error = fifo.error := rfl
@[simp] theorem entered_emitted : fifo.entered.emitted = fifo.emitted := rfl
@[simp] theorem entered_size : fifo.entered.size = fifo.size := rfl
@[simp] theorem entered_available : fifo.entered.available = fifo.available := rfl
@[simp] theorem entered_isReadable : fifo.entered.isReadable = fifo.isReadable := rfl
@[simp] theorem entered_isWritable : fifo.entered.isWritable = fifo.isWritable := rfl
@[simp] theorem entered_content : fifo.entered.content = fifo.content := rfl
@[simp] theorem entered_clamped :
    fifo.entered.clamped length = fifo.clamped length := rfl
@[simp] theorem entered_clampedOrAll :
    fifo.entered.clampedOrAll length = fifo.clampedOrAll length := rfl

@[simp] theorem compacted_begin : fifo.compacted.begin = 0 := rfl
@[simp] theorem compacted_used : fifo.compacted.used = fifo.used := rfl
@[simp] theorem compacted_mutex : fifo.compacted.mutex = fifo.mutex := rfl
@[simp] theorem compacted_notify : fifo.compacted.notify = fifo.notify := rfl
@[simp] theorem compacted_eof : fifo.compacted.eof = fifo.eof := rfl
@[simp] theorem compacted_error : fifo.compacted.error = fifo.error := rfl
@[simp] theorem compacted_emitted : fifo.compacted.emitted = fifo.emitted := rfl
@[simp] theorem compacted_entered :
    fifo.entered.compacted = fifo.compacted.entered := rfl

@[simp] theorem roomed_used : (fifo.roomed length).used = fifo.used := rfl
@[simp] theorem roomed_mutex : (fifo.roomed length).mutex = fifo.mutex := rfl
@[simp] theorem roomed_notify : (fifo.roomed length).notify = fifo.notify := rfl
@[simp] theorem roomed_eof : (fifo.roomed length).eof = fifo.eof := rfl
@[simp] theorem roomed_error : (fifo.roomed length).error = fifo.error := rfl
@[simp] theorem roomed_emitted : (fifo.roomed length).emitted = fifo.emitted := rfl
@[simp] theorem roomed_entered :
    fifo.entered.roomed length = (fifo.roomed length).entered := rfl

@[simp] theorem appended_begin : (fifo.appended data).begin = fifo.begin := rfl
@[simp] theorem appended_used :
    (fifo.appended data).used = fifo.used + data.length := rfl
@[simp] theorem appended_mutex : (fifo.appended data).mutex = fifo.mutex := rfl
@[simp] theorem appended_notify : (fifo.appended data).notify = fifo.notify := rfl
@[simp] theorem appended_eof : (fifo.appended data).eof = fifo.eof := rfl
@[simp] theorem appended_error : (fifo.appended data).error = fifo.error := rfl
@[simp] theorem appended_emitted :
    (fifo.appended data).emitted = fifo.emitted := rfl
@[simp] theorem appended_entered :
    fifo.entered.appended data = (fifo.appended data).entered := rfl

@[simp] theorem drained_buffer : (fifo.drained length).buffer = fifo.buffer := rfl
@[simp] theorem drained_size : (fifo.drained length).size = fifo.size := rfl
@[simp] theorem drained_mutex : (fifo.drained length).mutex = fifo.mutex := rfl
@[simp] theorem drained_notify : (fifo.drained length).notify = fifo.notify := rfl
@[simp] theorem drained_eof : (fifo.drained length).eof = fifo.eof := rfl
@[simp] theorem drained_error : (fifo.drained length).error = fifo.error := rfl
@[simp] theorem drained_emitted : (fifo.drained length).emitted = fifo.emitted := rfl
@[simp] theorem drained_entered :
    fifo.entered.drained length = (fifo.drained length).entered := rfl

@[simp] theorem notified_buffer :
    (fifo.notified usedBefore).buffer = fifo.buffer := rfl
@[simp] theorem notified_begin :
    (fifo.notified usedBefore).begin = fifo.begin := rfl
@[simp] theorem notified_used : (fifo.notified usedBefore).used = fifo.used := rfl
@[simp] theorem notified_size : (fifo.notified usedBefore).size = fifo.size := rfl
@[simp] theorem notified_mutex :
    (fifo.notified usedBefore).mutex = fifo.mutex := rfl
@[simp] theorem notified_notify :
    (fifo.notified usedBefore).notify = fifo.notify := rfl
@[simp] theorem notified_eof : (fifo.notified usedBefore).eof = fifo.eof := rfl
@[simp] theorem notified_error :
    (fifo.notified usedBefore).error = fifo.error := rfl
@[simp] theorem notified_content :
    (fifo.notified usedBefore).content = fifo.content := rfl
@[simp] theorem notified_entered :
    fifo.entered.notified usedBefore = (fifo.notified usedBefore).entered := rfl

@[simp] theorem compacted_size : fifo.compacted.size = fifo.size := by
  simp only [State.size, Buffer.size, State.compacted]
  split <;> simp [Buffer.movedToFront]

theorem compacted_available : fifo.compacted.available = fifo.available := by
  rw [State.available, State.available, compacted_size, compacted_used]

@[simp] theorem roomed_size : (fifo.roomed length).size = fifo.size := by
  have compacted := compacted_size fifo
  simp only [State.size, Buffer.size] at compacted ⊢
  simp only [State.roomed]
  split
  · exact compacted
  · rfl

@[simp] theorem appended_size : (fifo.appended data).size = fifo.size := by
  simp [State.appended, State.size, Buffer.size]

@[simp] theorem staged_size : (fifo.staged data).size = fifo.size := by
  simp [State.staged, State.size, Buffer.size]

@[simp] theorem staged_begin : (fifo.staged data).begin = fifo.begin := rfl
@[simp] theorem staged_used : (fifo.staged data).used = fifo.used := rfl
@[simp] theorem staged_mutex : (fifo.staged data).mutex = fifo.mutex := rfl
@[simp] theorem staged_emitted : (fifo.staged data).emitted = fifo.emitted := rfl

@[simp] theorem compacted_isWritable : fifo.compacted.isWritable = fifo.isWritable := by
  simp [State.isWritable, State.isFull, State.isValid]

@[simp] theorem staged_isWritable :
    (fifo.staged data).isWritable = fifo.isWritable := by
  simp only [State.isWritable, State.isFull, staged_size, staged_used]
  rfl

theorem roomed_of_fits (fits : fifo.short length = false) :
    fifo.roomed length = fifo := by
  cases fifo
  simp_all [State.roomed]

theorem compacted_of_begin_zero (zero : fifo.begin = 0) : fifo.compacted = fifo := by
  cases fifo
  simp_all [State.compacted]

@[simp] theorem compacted_compacted : fifo.compacted.compacted = fifo.compacted :=
  compacted_of_begin_zero _ (compacted_begin fifo)

@[simp] theorem compacted_roomed : (fifo.roomed length).compacted = fifo.compacted := by
  cases hshort : fifo.short length <;> simp [State.roomed, State.compacted, hshort]

end Fields

/-- The representation invariant: the content lies inside the buffer, and a
buffer in error is empty. -/
structure Sound (fifo : State T) : Prop where
  buffer : fifo.buffer.WellFormed
  inside : fifo.begin + fifo.used ≤ fifo.size
  error_empty : fifo.error = true → fifo.used = 0

section Soundness

variable {fifo : State T}

theorem Sound.entered (sound : Sound fifo) : Sound fifo.entered :=
  ⟨sound.buffer, sound.inside, sound.error_empty⟩

theorem Sound.used_le (sound : Sound fifo) : fifo.used ≤ fifo.size := by
  have inside := sound.inside
  omega

theorem Sound.size_le (sound : Sound fifo) : fifo.size ≤ fifo.buffer.cells.length := by
  have capacity := sound.buffer.capacity_eq
  have used := sound.buffer.used_le
  simp only [State.size, Buffer.size]
  omega

theorem Sound.cells (sound : Sound fifo) :
    fifo.begin + fifo.used ≤ fifo.buffer.cells.length :=
  Nat.le_trans sound.inside sound.size_le

theorem Sound.notified {usedBefore : Nat} (sound : Sound fifo) :
    Sound (fifo.notified usedBefore) :=
  ⟨sound.buffer, sound.inside, sound.error_empty⟩

theorem Sound.compacted (sound : Sound fifo) : Sound fifo.compacted := by
  have cells := sound.cells
  have inside := sound.inside
  have length := Cells.length_slice cells
  refine ⟨?_, ?_, sound.error_empty⟩
  · simp only [State.compacted]
    split
    · exact sound.buffer
    · exact sound.buffer.stored (by omega)
  · rw [compacted_size, compacted_begin, compacted_used]
    omega

theorem Sound.roomed (length : Nat) (sound : Sound fifo) :
    Sound (fifo.roomed length) := by
  have compacted := sound.compacted
  have inside := sound.inside
  refine ⟨?_, ?_, sound.error_empty⟩
  · simp only [State.roomed]
    split
    · exact compacted.buffer
    · exact sound.buffer
  · rw [roomed_size, roomed_used]
    simp only [State.roomed]
    split <;> omega

theorem Sound.staged (sound : Sound fifo) (data : List T)
    (room : fifo.used + data.length ≤ fifo.size) : Sound (fifo.staged data) := by
  have size := sound.size_le
  refine ⟨sound.buffer.stored (by omega), ?_, sound.error_empty⟩
  rw [staged_size]
  exact sound.inside

theorem Sound.appended (sound : Sound fifo) (data : List T) (front : fifo.begin = 0)
    (room : fifo.used + data.length ≤ fifo.size) (valid : fifo.error = false) :
    Sound (fifo.appended data) := by
  have size := sound.size_le
  refine ⟨sound.buffer.stored (by omega), ?_, ?_⟩
  · rw [appended_size, appended_begin, appended_used]
    omega
  · intro error
    rw [appended_error, valid] at error
    contradiction

theorem Sound.grown {length : Nat} (sound : Sound fifo)
    (room : fifo.begin + fifo.used + length ≤ fifo.size)
    (valid : fifo.error = false) : Sound (fifo.grown length) := by
  refine ⟨sound.buffer, by rw [Nat.add_assoc] at room; exact room, ?_⟩
  intro error
  have : fifo.error = true := error
  rw [valid] at this
  contradiction

theorem Sound.drained (length : Nat) (sound : Sound fifo) :
    Sound (fifo.drained length) := by
  have inside := sound.inside
  refine ⟨sound.buffer, ?_, ?_⟩
  · rw [drained_size]
    simp only [State.drained, State.exhausted, decide_eq_true_eq]
    split <;> omega
  · intro error
    have empty := sound.error_empty error
    simp [State.drained, empty]

/-! The content of the closed forms. -/

theorem length_content (sound : Sound fifo) : fifo.content.length = fifo.used :=
  Cells.length_slice sound.cells

theorem content_nil (empty : fifo.used = 0) : fifo.content = [] := by
  simp [State.content, empty]

theorem content_compacted_of_inside
    (inside : fifo.begin + fifo.used ≤ fifo.buffer.cells.length) :
    fifo.compacted.content = fifo.content := by
  simp only [State.content, State.compacted]
  split
  · rename_i zero
    rw [zero]
  · exact Buffer.slice_cells_movedToFront inside

theorem content_compacted (sound : Sound fifo) :
    fifo.compacted.content = fifo.content :=
  content_compacted_of_inside sound.cells

theorem content_staged {data : List T} (sound : Sound fifo) (front : fifo.begin = 0)
    (room : fifo.used + data.length ≤ fifo.size) :
    (fifo.staged data).content = fifo.content := by
  have size := sound.size_le
  simp only [State.content, State.staged, Buffer.cells_stored, front]
  exact Cells.slice_overwrite_before (by omega) (by omega)

theorem content_appended {data : List T} (sound : Sound fifo)
    (front : fifo.begin = 0) (room : fifo.used + data.length ≤ fifo.size) :
    (fifo.appended data).content = fifo.content ++ data := by
  have size := sound.size_le
  have inside : fifo.used + data.length ≤ fifo.buffer.cells.length := by omega
  simp only [State.content, State.appended, Buffer.cells_stored, front, Cells.slice_add]
  rw [Cells.slice_overwrite_before (by omega) (by omega), Nat.zero_add,
    Cells.slice_overwrite_self _ _ _ inside]

theorem exhausted_iff (length : Nat) :
    fifo.exhausted length = true ↔ 0 = length ∨ length ≥ fifo.used := by
  simp [State.exhausted]

theorem content_drained (length : Nat) (sound : Sound fifo) :
    (fifo.drained length).content =
      if 0 = length then [] else fifo.content.drop length := by
  have full := length_content sound
  simp only [State.content, State.drained, exhausted_iff]
  split
  · split
    · simp
    · rw [List.drop_eq_nil_of_le]
      · simp
      · simp only [State.content] at full
        omega
  · rw [if_neg (by omega), Cells.drop_slice]

/-! The tests and counts of a sound buffer. -/

theorem isReadable_iff (sound : Sound fifo) :
    fifo.isReadable = true ↔ 0 < fifo.used := by
  simp only [State.isReadable, State.isEmpty, State.isValid, Bool.and_eq_true,
    Bool.not_eq_true', decide_eq_false_iff_not]
  constructor
  · intro ⟨nonempty, _⟩
    omega
  · intro nonempty
    refine ⟨by omega, ?_⟩
    cases herror : fifo.error with
    | false => rfl
    | true => exact absurd (sound.error_empty herror) (by omega)

theorem used_of_not_readable (sound : Sound fifo)
    (unreadable : fifo.isReadable = false) : fifo.used = 0 := by
  have iff := isReadable_iff sound
  rw [unreadable] at iff
  simp only [Bool.false_eq_true, false_iff] at iff
  omega

theorem valid_of_writable (writable : fifo.isWritable = true) :
    fifo.error = false := by
  simp only [State.isWritable, State.isValid, Bool.and_eq_true,
    Bool.not_eq_true'] at writable
  exact writable.1.2

theorem clamped_eq (length : Nat) : fifo.clamped length = min length fifo.used := by
  unfold State.clamped
  split <;> omega

theorem clampedOrAll_eq (length : Nat) :
    fifo.clampedOrAll length =
      if 0 = length then fifo.used else min length fifo.used := by
  unfold State.clampedOrAll
  split <;> split <;> omega

theorem clampedOrAll_bounds (fifo : State T) (length : Nat) (nonempty : 0 < fifo.used) :
    0 < fifo.clampedOrAll length ∧ fifo.clampedOrAll length ≤ fifo.used := by
  rw [clampedOrAll_eq]
  split <;> omega

theorem available_roomed (length : Nat) (sound : Sound fifo) :
    min length (SizeT.sub (SizeT.sub fifo.size fifo.used) (fifo.roomed length).begin) =
      min length (fifo.size - fifo.used) := by
  have inside := sound.inside
  rw [SizeT.sub_of_le sound.used_le]
  simp only [State.roomed, State.short, decide_eq_true_eq]
  split
  · rw [SizeT.sub_of_le (Nat.zero_le _), Nat.sub_zero]
  · rw [SizeT.sub_of_le (by omega)]
    omega

theorem room_roomed {length : Nat} (sound : Sound fifo)
    (fits : length ≤ fifo.size - fifo.used) :
    (fifo.roomed length).begin + (fifo.roomed length).used + length ≤
      (fifo.roomed length).size := by
  have inside := sound.inside
  have used := sound.used_le
  rw [roomed_used, roomed_size]
  simp only [State.roomed, State.short, decide_eq_true_eq]
  split <;> omega

end Soundness

def Accepts (fifo : State T) (length : Nat) : Prop :=
  length ≤ fifo.size - fifo.used ∧ fifo.isWritable = true

instance (fifo : State T) (length : Nat) : Decidable (Accepts fifo length) :=
  inferInstanceAs (Decidable (_ ∧ _))

def refusal (fifo : State T) (length : Nat) : String :=
  if length > fifo.size - fifo.used then "Cannot extend buffer."
  else "Buffer not writable."

def filled [Inhabited T] (target : Buffer T) (data : List T) : Buffer T :=
  (target.resized data.length true).stored 0 data

end BasicFIFOBuffer

end TestReactor
