import TestReactor.FifoBuffer.Operation
import TestReactor.WeakestPre

namespace TestReactor

namespace BasicFIFOBuffer

open Exec (Preserves)

/-! The edges that a data operation signals, however it ends. -/

/-- The signals that the way from `fifo` to `next` calls for, raised with the counters of
`next`. -/
def State.crossed (fifo next : State T) : List Emission :=
  next.edge .readable (fifo.isEmpty && !next.isEmpty) (!fifo.isEmpty && next.isEmpty) ++
    next.edge .writable (fifo.isFull && !next.isFull) (!fifo.isFull && next.isFull)

/-- The call signals what it has done and nothing else. -/
def Exact (fifo next : State T) : Prop := next.emitted = fifo.emitted ++ fifo.crossed next

def Op.MovesData : Op T → Prop
  | .write _ | .writeBuffer _ _ | .copy _ | .advance _ | .read _ | .readBuffer _ _
  | .drain _ => True
  | .fill _ | .peek _ | .peekBuffer _ _ | .begin | .next | .setError _ | .setEOF _ | .resize _ _
  | .subscript _ => False

/-- What is left as it was until the count changes. -/
structure Silent (fifo next : State T) : Prop where
  size : next.size = fifo.size
  used : next.used = fifo.used
  begin_le : next.begin ≤ fifo.begin
  notify : next.notify = fifo.notify
  emitted : next.emitted = fifo.emitted

variable {fifo : State T}

theorem Silent.refl (fifo : State T) : Silent fifo fifo := ⟨rfl, rfl, Nat.le_refl _, rfl, rfl⟩

theorem Silent.exact {next : State T} (silent : Silent fifo next) : Exact fifo next := by
  have empty : next.isEmpty = fifo.isEmpty := by rw [State.isEmpty, silent.used, State.isEmpty]
  have full : next.isFull = fifo.isFull := by
    rw [State.isFull, silent.used, silent.size, State.isFull]
  simp [Exact, State.crossed, State.edge, empty, full, silent.emitted]

theorem preserves_locked {body : Method T α} (kept : Preserves (Silent fifo) body) :
    Preserves (Silent fifo) (locked body) :=
  kept.scopedLock fun _ _ silent =>
    ⟨silent.size, silent.used, silent.begin_le, silent.notify, silent.emitted⟩

section Storage

variable {size : Nat}

theorem preserves_load (start count : Nat) :
    Preserves (fun buffer : Buffer T => buffer.used = size) (Buffer.load start count) :=
  Exec.preserves_get.bind fun _ =>
    (Exec.preserves_pure _).ite ((Exec.preserves_pure _).ite (Exec.preserves_raise _))

theorem preserves_store (start : Nat) (data : List T) :
    Preserves (fun buffer : Buffer T => buffer.used = size) (Buffer.store start data) := by
  intro buffer held
  rw [Buffer.store, Exec.ends_bind, Exec.ends_get, Exec.ends_ite, Exec.ends_ite]
  split
  · exact held
  · split
    · exact held
    · exact held

theorem preserves_move (target source count : Nat) :
    Preserves (fun buffer : Buffer T => buffer.used = size) (Buffer.move target source count) :=
  (preserves_load source count).bind fun data => preserves_store target data

end Storage

theorem preserves_on {body : Buffer.Method T α}
    (kept : Preserves (fun buffer => buffer.used = fifo.size) body) :
    Preserves (Silent fifo) (Exec.on bufferField body) := by
  intro state silent
  rw [Exec.ends_on]
  have still (next : Buffer T) (size : next.used = fifo.size) :
      Silent fifo (bufferField.set next state) :=
    ⟨size, silent.used, silent.begin_le, silent.notify, silent.emitted⟩
  exact Exec.ends_mono (kept _ silent.size) (fun _ => still) fun _ => still

theorem preserves_rewound :
    Preserves (Silent fifo) (modify fun fifo => { fifo with begin := 0 }) :=
  Exec.preserves_modify fun _ silent =>
    ⟨silent.size, silent.used, Nat.zero_le _, silent.notify, silent.emitted⟩

theorem preserves_begin : Preserves (Silent fifo) begin :=
  preserves_locked (Exec.preserves_get.bind fun _ =>
    Exec.Preserves.bind (.when (Exec.preserves_get.bind fun state =>
      (preserves_on (preserves_move 0 state.begin state.used)).bind fun _ => preserves_rewound))
    fun _ => Exec.preserves_pure _)

theorem preserves_makeRoom (length : Nat) : Preserves (Silent fifo) (makeRoom length) :=
  Exec.preserves_get.bind fun _ => .when (preserves_begin.bind fun _ =>
    Exec.preserves_get.bind fun _ => (preserves_on (preserves_move _ _ _)).bind fun _ =>
      preserves_rewound)

theorem preserves_peek (length : Nat) : Preserves (Silent fifo) (peek length) :=
  (Exec.preserves_pure _).ite (preserves_locked (Exec.preserves_get.bind fun _ =>
    (Exec.preserves_pure _).ite ((preserves_on (preserves_load _ _)).bind fun _ =>
      Exec.preserves_pure _)))

theorem preserves_peekBuffer [Inhabited T] (target : Buffer T) (length : Nat) :
    Preserves (Silent fifo) (peekBuffer target length) :=
  preserves_locked (Exec.preserves_get.bind fun _ =>
    (Exec.preserves_pure _).ite ((Exec.preserves_callOn _ _).bind fun _ =>
      (preserves_peek _).bind fun _ => (Exec.preserves_callOn _ _).bind fun _ =>
        Exec.preserves_pure _))

/-! The end of every operation: the count changes and `notify` compares. -/

theorem exact_notified {middle : State T} (on : middle.notify = true)
    (size : middle.size = fifo.size) (emitted : middle.emitted = fifo.emitted)
    (before : fifo.used ≤ fifo.size) (within : middle.used ≤ fifo.size) :
    Exact fifo (middle.notified fifo.used) := by
  have filled : (fifo.isEmpty && !middle.isEmpty) = decide (fifo.used = 0 ∧ middle.used > 0) := by
    rw [Bool.eq_iff_iff]
    simp only [State.isEmpty, Bool.and_eq_true, Bool.not_eq_true', decide_eq_true_eq,
      decide_eq_false_iff_not]
    omega
  have emptied : (!fifo.isEmpty && middle.isEmpty) = decide (fifo.used > 0 ∧ 0 = middle.used) := by
    rw [Bool.eq_iff_iff]
    simp only [State.isEmpty, Bool.and_eq_true, Bool.not_eq_true', decide_eq_true_eq,
      decide_eq_false_iff_not]
    omega
  have opened : (fifo.isFull && !middle.isFull) =
      decide (fifo.used = middle.size ∧ middle.used < middle.size) := by
    rw [Bool.eq_iff_iff]
    simp only [State.isFull, Bool.and_eq_true, Bool.not_eq_true', decide_eq_true_eq,
      decide_eq_false_iff_not]
    omega
  have closed : (!fifo.isFull && middle.isFull) =
      decide (fifo.used < middle.size ∧ middle.used = middle.size) := by
    rw [Bool.eq_iff_iff]
    simp only [State.isFull, Bool.and_eq_true, Bool.not_eq_true', decide_eq_true_eq,
      decide_eq_false_iff_not]
    omega
  have crossed : fifo.crossed middle = middle.edges fifo.used := by
    rw [State.crossed, filled, emptied, opened, closed, State.edges]
  rw [Exact, State.notified, if_pos on, emitted]
  exact congrArg (fifo.emitted ++ ·) crossed.symm

/-- A call on `fifo` that ends exactly, where it has got to `state`. -/
abbrev EndsExactly (fifo : State T) (body : Method T α) (state : State T) : Prop :=
  Exec.ends body (fun _ => Exact fifo) (fun _ => Exact fifo) state

theorem endsExactly_locked {body : Method T α} (inner : EndsExactly fifo body fifo.entered) :
    EndsExactly fifo (locked body) fifo := by
  rw [EndsExactly, locked, Exec.ends_scopedLock]
  split
  · refine Exec.ends_mono inner (fun _ _ => id) fun stop next exact => ?_
    cases stop <;> exact exact
  · exact (Silent.refl fifo).exact

theorem endsExactly_bind {first : Method T α} {rest : α → Method T β} {state : State T}
    (quiet : Preserves (Silent fifo) first) (silent : Silent fifo state)
    (last : ∀ value middle, Silent fifo middle → EndsExactly fifo (rest value) middle) :
    EndsExactly fifo (first >>= rest) state := by
  rw [EndsExactly, Exec.ends_bind]
  exact Exec.ends_mono (quiet state silent) last fun _ _ stopped => stopped.exact

theorem silent_entered (fifo : State T) : Silent fifo fifo.entered :=
  ⟨rfl, rfl, Nat.le_refl _, rfl, rfl⟩

theorem endsExactly_take (on : fifo.notify = true) (within : fifo.used ≤ fifo.size)
    {state : State T} (silent : Silent fifo state) (count length : Nat) :
    EndsExactly fifo (take fifo.used count length) state := by
  have used := silent.used
  simp only [EndsExactly, take]
  refine endsExactly_bind (.ite (Exec.preserves_pure _) (Exec.preserves_raise _)) silent ?_
  intro _ middle silent
  simp only [Exec.ends_bind, Exec.ends_modify]
  refine (Exec.ends_of_ok (run_notifyIfOn _ _)).mpr ?_
  have used := silent.used
  apply exact_notified
  · exact silent.notify ▸ on
  · exact silent.size
  · exact silent.emitted
  · exact within
  · simp only
    omega

theorem endsExactly_read (on : fifo.notify = true) (within : fifo.used ≤ fifo.size)
    (length : Nat) : EndsExactly fifo (read length) fifo := by
  rw [read, EndsExactly, Exec.ends_ite]
  split
  · exact (Silent.refl fifo).exact
  · refine endsExactly_locked ?_
    rw [EndsExactly, Exec.ends_bind, Exec.ends_get, Exec.ends_ite]
    split
    · exact (silent_entered fifo).exact
    · refine endsExactly_bind (preserves_peek length) (silent_entered fifo) ?_
      rintro ⟨count, data⟩ middle silent
      rw [EndsExactly, Exec.ends_bind]
      exact endsExactly_take on within silent count length

theorem endsExactly_readBuffer [Inhabited T] (on : fifo.notify = true)
    (within : fifo.used ≤ fifo.size) (target : Buffer T) (length : Nat) :
    EndsExactly fifo (readBuffer target length) fifo := by
  refine endsExactly_locked ?_
  rw [EndsExactly, Exec.ends_bind, Exec.ends_get, Exec.ends_ite]
  split
  · exact (silent_entered fifo).exact
  · refine endsExactly_bind (preserves_peekBuffer target length) (silent_entered fifo) ?_
    rintro ⟨count, filled⟩ middle silent
    rw [EndsExactly, Exec.ends_bind]
    exact endsExactly_take on within silent count length

theorem endsExactly_drain (on : fifo.notify = true) (within : fifo.used ≤ fifo.size)
    (length : Nat) : EndsExactly fifo (drain length) fifo := by
  refine endsExactly_locked ?_
  simp only [Exec.ends_bind, Exec.ends_get, Exec.ends_ite, Exec.ends_modify]
  split
  · exact (Exec.ends_of_ok (run_notifyIfOn _ _)).mpr
      (exact_notified on rfl rfl within (Nat.zero_le _))
  · exact (Exec.ends_of_ok (run_notifyIfOn _ _)).mpr
      (exact_notified on rfl rfl within (Nat.le_trans (Nat.sub_le _ _) within))

structure Grown (fifo : State T) (count : Nat) (next : State T) : Prop where
  size : next.size = fifo.size
  used : next.used = fifo.used + count
  notify : next.notify = fifo.notify
  emitted : next.emitted = fifo.emitted

theorem Grown.exact {count : Nat} {next : State T} (grown : Grown fifo count next)
    (on : fifo.notify = true) (fits : fifo.used + count ≤ fifo.size) :
    Exact fifo (next.notified fifo.used) :=
  exact_notified (grown.notify.trans on) grown.size grown.emitted (by omega)
    (by rw [grown.used]; exact fits)

theorem Silent.grown {middle : State T} (silent : Silent fifo middle) (count : Nat) :
    Grown fifo count { middle with used := middle.used + count } where
  size := silent.size
  used := congrArg (· + count) silent.used
  notify := silent.notify
  emitted := silent.emitted

theorem ends_putBehind {state : State T} (silent : Silent fifo state) (data : List T)
    {post : Unit → State T → Prop} (rest : ∀ next, Grown fifo data.length next → post () next) :
    Exec.ends (putBehind data) post (fun _ => Exact fifo) state := by
  rw [putBehind, Exec.ends_bind]
  refine Exec.ends_mono (preserves_begin state silent) ?_ fun _ _ stopped => stopped.exact
  intro start middle silent
  rw [Exec.ends_bind, Exec.ends_get, Exec.ends_bind]
  refine Exec.ends_mono (preserves_on (preserves_store _ _) middle silent) ?_
    fun _ _ stopped => stopped.exact
  exact fun _ next silent => rest _ (silent.grown data.length)

theorem endsExactly_write (on : fifo.notify = true) (inside : fifo.begin + fifo.used ≤ fifo.size)
    (data : List T) : EndsExactly fifo (write data) fifo := by
  rw [write, EndsExactly, Exec.ends_ite]
  split
  · exact (Silent.refl fifo).exact
  · refine endsExactly_locked ?_
    rw [EndsExactly, Exec.ends_bind, Exec.ends_get, Exec.ends_ite]
    split
    · exact (silent_entered fifo).exact
    · refine endsExactly_bind (preserves_makeRoom data.length) (silent_entered fifo) ?_
      intro _ middle silent
      rw [EndsExactly, Exec.ends_bind, Exec.ends_get, Exec.ends_bind]
      refine ends_putBehind silent _ fun last grown => ?_
      have begin_le := silent.begin_le
      have free : SizeT.sub fifo.size fifo.used = fifo.size - fifo.used :=
        SizeT.sub_of_le (by omega)
      have fits : fifo.used + (data.take (min data.length (SizeT.sub
          (SizeT.sub middle.size middle.used) middle.begin))).length ≤ fifo.size := by
        rw [silent.size, silent.used, free, SizeT.sub_of_le (by omega), List.length_take]
        omega
      have room : last.used ≤ last.size := by
        rw [grown.used, grown.size]
        exact fits
      rw [Exec.ends_bind, Exec.ends_get, Exec.assert, if_pos (by simpa using room), Exec.ends_bind,
        Exec.ends_pure, Exec.ends_bind, Exec.ends_of_ok (run_notifyIfOn _ _), silent.used]
      exact grown.exact on fits

theorem endsExactly_checkRoom {length : Nat} {rest : Unit → Method T Unit}
    (within : fifo.used ≤ fifo.size)
    (last : fifo.used + length ≤ fifo.size → EndsExactly fifo (rest ()) fifo.entered) :
    EndsExactly fifo (checkRoom length >>= rest) fifo.entered := by
  have available : fifo.entered.available = fifo.size - fifo.used := SizeT.sub_of_le within
  rw [EndsExactly, Exec.ends_bind, checkRoom, Exec.ends_bind, Exec.ends_get, Exec.ends_ite,
    Exec.ends_ite, available]
  split
  · exact (silent_entered fifo).exact
  · split
    · exact (silent_entered fifo).exact
    · exact last (by omega)

theorem endsExactly_copy (on : fifo.notify = true) (within : fifo.used ≤ fifo.size)
    (data : List T) : EndsExactly fifo (copy data) fifo := by
  rw [copy, EndsExactly, Exec.ends_ite]
  split
  · exact (Silent.refl fifo).exact
  · refine endsExactly_locked (endsExactly_checkRoom within fun fits => ?_)
    rw [EndsExactly, Exec.ends_bind, Exec.ends_get, Exec.ends_bind]
    refine ends_putBehind (silent_entered fifo) _ fun last grown => ?_
    rw [Exec.ends_of_ok (run_notifyIfOn _ _)]
    exact grown.exact on fits

theorem endsExactly_advance (on : fifo.notify = true) (within : fifo.used ≤ fifo.size)
    (length : Nat) : EndsExactly fifo (advance length) fifo := by
  refine endsExactly_locked (endsExactly_checkRoom within fun fits => ?_)
  refine endsExactly_bind (preserves_makeRoom length) (silent_entered fifo) ?_
  intro _ middle silent
  rw [EndsExactly, Exec.ends_bind, Exec.ends_get, Exec.ends_bind, Exec.ends_modify,
    Exec.ends_of_ok (run_notifyIfOn _ _), silent.used]
  exact (silent.used ▸ silent.grown length).exact on fits

/-- A data operation signals exactly the edges it crosses, with the counters as they are at the
end, also when it returns early, throws or never comes back. -/
theorem signals_exact_edges [Inhabited T] (inside : fifo.begin + fifo.used ≤ fifo.size)
    (on : fifo.notify = true) {op : Op T} (moves : op.MovesData) :
    Exec.ends op.run (fun _ next => Exact fifo next) (fun _ next => Exact fifo next) fifo := by
  have within : fifo.used ≤ fifo.size := by omega
  cases op with
  | write data =>
      rw [Op.run, Exec.ends_map]
      exact endsExactly_write on inside data
  | writeBuffer source length =>
      rw [Op.run, Exec.ends_map]
      exact endsExactly_write on inside _
  | copy data =>
      rw [Op.run, Exec.ends_map]
      exact endsExactly_copy on within data
  | advance length =>
      rw [Op.run, Exec.ends_map]
      exact endsExactly_advance on within length
  | read length =>
      rw [Op.run, Exec.ends_map]
      exact endsExactly_read on within length
  | readBuffer target length =>
      rw [Op.run, Exec.ends_map]
      exact endsExactly_readBuffer on within target.val length
  | drain length =>
      rw [Op.run, Exec.ends_map]
      exact endsExactly_drain on within length
  | fill | peek | peekBuffer | begin | next | setError | setEOF | resize | subscript =>
      exact moves.elim

/-- One element drained from a buffer of size one crosses both edges. -/
theorem signals_exact_edges_of_one_byte :
    Exec.ends (Op.drain 0).run
      (fun _ => Exact ((Construction.ofCopy [(7 : UInt8)]).build true true))
      (fun _ => Exact ((Construction.ofCopy [(7 : UInt8)]).build true true))
      ((Construction.ofCopy [7]).build true true) :=
  signals_exact_edges (by decide) rfl trivial

end BasicFIFOBuffer

end TestReactor
