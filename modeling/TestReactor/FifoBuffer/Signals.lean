import TestReactor.FifoBuffer.Frame

namespace TestReactor

namespace BasicFIFOBuffer

open Exec (wp)

/-! What a subscriber of `writable` and `readable` believes. -/

structure View where
  writable : Bool
  readable : Bool
  deriving DecidableEq, Repr

def View.see (view : View) (emission : Emission) : View :=
  match emission.signal with
  | .writable => { view with writable := emission.value }
  | .readable => { view with readable := emission.value }

def State.view (fifo : State T) : View := ⟨fifo.isWritable, fifo.isReadable⟩

structure Subscribed (T : Type) where
  fifo : State T
  view : View

namespace Subscribed

def step [Inhabited T] (subscribed : Subscribed T) (op : Op T) :
    Option (Subscribed T) :=
  (BasicFIFOBuffer.step subscribed.fifo op).map fun next =>
    ⟨next, (next.emitted.drop subscribed.fifo.emitted.length).foldl View.see
      subscribed.view⟩

def Right (subscribed : Subscribed T) : Prop := subscribed.view = subscribed.fifo.view

end Subscribed

/-- The counters of every buffer that can be reached, also after a resize that
has left the content outside. -/
structure Counted (fifo : State T) : Prop where
  within : fifo.used ≤ fifo.size
  error_empty : fifo.error = true → fifo.used = 0

def Notified (fifo : State T) (size used : Nat) (next : State T) : Prop :=
  ∃ middle, Becomes fifo size used middle ∧ next = middle.notified fifo.used

def Gains (fifo next : State T) : Prop :=
  Frame fifo next ∨ fifo.isWritable = true ∧
    ∃ used, fifo.used ≤ used ∧ used ≤ fifo.size ∧ Notified fifo fifo.size used next

def Loses (fifo next : State T) : Prop :=
  ∃ used, used < fifo.used ∧ Notified fifo fifo.size used next

/-- What an operation that came back has done to the counters. -/
def Op.Tells (fifo : State T) (op : Op T) (next : State T) : Prop :=
  match op with
  | .write _ | .writeBuffer _ _ | .copy _ | .fill _ | .advance _ => Gains fifo next
  | .read length =>
      if 0 < length ∧ fifo.isReadable = true then Loses fifo next else Frame fifo next
  | .readBuffer target _ =>
      if fifo.isReadable = true ∧ target.val.ownMem = true then Loses fifo next
      else Frame fifo next
  | .drain _ =>
      if 0 < fifo.used then Loses fifo next
      else Notified fifo fifo.size fifo.used next
  | .begin | .next | .peek _ | .peekBuffer _ _ | .subscript _ => Frame fifo next
  | .setError error => next = if error then fifo.failed else fifo.recovered
  | .setEOF eof => next = fifo.ended eof
  | .resize newSize preserveContent =>
      if fifo.refusesResize newSize preserveContent then Frame fifo next
      else 0 < newSize ∧
        Notified fifo newSize (if preserveContent then fifo.used else 0) next

section Tells

variable {thrown : State T → Prop} {fifo : State T}

theorem Notified.left {next : State T} {size used : Nat}
    (notified : Notified fifo.entered size used next) :
    Notified fifo size used { next with mutex := next.mutex.leave } := by
  obtain ⟨middle, becomes, rfl⟩ := notified
  refine ⟨{ middle with mutex := middle.mutex.leave }, ?_, rfl⟩
  obtain ⟨size, used, mutex, notify, eof, error, emitted⟩ := becomes
  refine ⟨size, used, ?_, notify, eof, error, emitted⟩
  rw [mutex, entered_mutex, Mutex.leave_enter]

theorem Notified.of_frame {middle next : State T} {size used : Nat}
    (frame : Frame fifo middle) (notified : Notified middle size used next) :
    Notified fifo size used next := by
  obtain ⟨last, becomes, rfl⟩ := notified
  exact ⟨last, frame.of_frame becomes, by rw [frame.used]⟩

theorem wp_putBehind (data : List T) {post : Unit → State T → Prop}
    (rest : ∀ next, Becomes fifo fifo.size (fifo.used + data.length) next → post () next) :
    wp True (putBehind data) post thrown fifo := by
  rw [putBehind, Exec.wp_bind]
  refine wp_begin (.inr trivial) fun next frame => ?_
  rw [Exec.wp_bind, Exec.wp_get, Exec.wp_bind]
  refine wp_on_store _ _ fun last stored => rest _ ?_
  obtain ⟨size, used, mutex, notify, eof, error, emitted⟩ := frame.trans stored
  exact ⟨size, by simp only [used], mutex, notify, eof, error, emitted⟩

theorem Gains.of_put {middle last : State T} {count : Nat} (frame : Frame fifo.entered middle)
    (writable : fifo.isWritable = true) (within : middle.used + count ≤ middle.size)
    (becomes : Becomes middle middle.size (middle.used + count) last) :
    Gains fifo { last.notified middle.used with mutex := last.mutex.leave } := by
  have notified := Notified.left (Notified.of_frame frame ⟨last, becomes, rfl⟩)
  have size : middle.size = fifo.size := frame.size
  have used : middle.used = fifo.used := frame.used
  rw [size, used] at notified within
  exact .inr ⟨writable, _, Nat.le_add_right _ _, within, used ▸ notified⟩

theorem wp_write (data : List T) :
    wp True (write data) (fun _ => Gains fifo) (Gains fifo) fifo := by
  rw [write, Exec.wp_ite]
  split
  · exact .inl (Frame.refl fifo)
  · refine wp_locked (.inr trivial) ?_
    rw [Exec.wp_bind, Exec.wp_get, Exec.wp_ite]
    split
    · exact .inl (Frame.refl fifo)
    · rename_i writable
      rw [Exec.wp_bind]
      refine wp_makeRoom _ (fun _ => .inr trivial) fun middle frame => ?_
      rw [Exec.wp_bind, Exec.wp_get, Exec.wp_bind]
      refine wp_putBehind _ fun last becomes => ?_
      simp only [Exec.wp_bind, Exec.wp_get, Exec.wp_assert, wp_notifyIfOn, Exec.wp_pure,
        decide_eq_true_eq]
      -- The assertion bounds the count: with the content outside the buffer the
      -- room that `write` computes wraps around.
      intro within
      rw [becomes.size, becomes.used] at within
      exact Gains.of_put frame (by simpa using writable) within becomes

theorem wp_checkRoom (length : Nat) {post : Unit → State T → Prop}
    (within : fifo.used ≤ fifo.size) (refused : thrown fifo)
    (rest : fifo.used + length ≤ fifo.size → fifo.isWritable = true → post () fifo) :
    wp True (checkRoom length) post thrown fifo := by
  have available : fifo.available = fifo.size - fifo.used := SizeT.sub_of_le within
  simp only [checkRoom, Exec.wp_bind, Exec.wp_get, Exec.wp_ite, Exec.wp_raise_throw,
    Exec.wp_pure, available]
  split
  · exact refused
  · split
    · exact refused
    · rename_i enough writable
      exact rest (by omega) (by simpa using writable)

theorem wp_copy (counted : Counted fifo) (data : List T) :
    wp True (copy data) (fun _ => Gains fifo) (Gains fifo) fifo := by
  rw [copy, Exec.wp_ite]
  split
  · exact .inl (Frame.refl fifo)
  · refine wp_locked (.inr trivial) ?_
    rw [Exec.wp_bind]
    refine wp_checkRoom _ counted.within (.inl (Frame.refl fifo)) fun room writable => ?_
    rw [Exec.wp_bind, Exec.wp_get, Exec.wp_bind]
    refine wp_putBehind _ fun last becomes => ?_
    rw [wp_notifyIfOn]
    exact Gains.of_put (Frame.refl fifo.entered) writable room becomes

theorem wp_advance (counted : Counted fifo) (length : Nat) :
    wp True (advance length) (fun _ => Gains fifo) (Gains fifo) fifo := by
  refine wp_locked (.inr trivial) ?_
  rw [Exec.wp_bind]
  refine wp_checkRoom _ counted.within (.inl (Frame.refl fifo)) fun room writable => ?_
  rw [Exec.wp_bind]
  refine wp_makeRoom _ (fun _ => .inr trivial) fun middle frame => ?_
  rw [Exec.wp_bind, Exec.wp_get, Exec.wp_bind, Exec.wp_modify, wp_notifyIfOn]
  have becomes : Becomes middle middle.size (middle.used + length)
      { middle with used := middle.used + length } := ⟨rfl, rfl, rfl, rfl, rfl, rfl, rfl⟩
  refine Gains.of_put frame writable ?_ becomes
  rw [frame.used, frame.size]
  exact room

theorem wp_next {post : Nat → State T → Prop}
    (rest : ∀ start middle, Frame fifo middle → post start middle) :
    wp True next post thrown fifo := by
  refine wp_locked (.inr trivial) ?_
  rw [Exec.wp_bind]
  refine wp_begin (.inr trivial) fun middle frame => ?_
  exact rest _ _ (Frame.left frame)

theorem Gains.of_frame {middle next : State T} (frame : Frame fifo middle)
    (gains : Gains middle next) : Gains fifo next := by
  cases gains with
  | inl moved => exact .inl (Frame.trans frame moved)
  | inr grown =>
      obtain ⟨writable, used, more, within, notified⟩ := grown
      rw [frame.used] at more
      rw [frame.size] at within
      have notified := Notified.of_frame frame notified
      rw [frame.size] at notified
      exact .inr ⟨frame.isWritable ▸ writable, used, more, within, notified⟩

theorem Counted.of_frame {middle : State T} (frame : Frame fifo middle)
    (counted : Counted fifo) : Counted middle := by
  constructor
  · rw [frame.used, frame.size]
    exact counted.within
  · rw [frame.used, frame.error]
    exact counted.error_empty

theorem wp_fill (counted : Counted fifo) (data : List T) :
    wp True (fill data) (fun _ => Gains fifo) (Gains fifo) fifo := by
  rw [fill, Exec.wp_bind, Exec.wp_get, Exec.wp_ite]
  split
  · trivial
  · rw [Exec.wp_bind]
    refine wp_next fun start middle frame => ?_
    rw [Exec.wp_bind]
    refine wp_on_store _ _ fun staged stored => ?_
    have frame := Frame.trans frame stored
    exact Exec.wp_mono (fun _ next gains => Gains.of_frame frame gains)
      (fun next gains => Gains.of_frame frame gains)
      (wp_advance (counted.of_frame frame) data.length)

theorem wp_peek (length : Nat) {post : Nat × List T → State T → Prop}
    (rest : ∀ data, post (if fifo.isReadable then min length fifo.used else 0, data) fifo) :
    wp True (peek length) post thrown fifo := by
  rw [peek, Exec.wp_ite]
  split
  · rename_i zero
    have unread := rest []
    rw [← zero, Nat.zero_min, ite_self] at unread
    exact unread
  · refine wp_locked (.inr trivial) ?_
    rw [Exec.wp_bind, Exec.wp_get, Exec.wp_ite, entered_isReadable]
    cases readable : fifo.isReadable with
    | false =>
        have unread := rest []
        simp only [readable, Bool.false_eq_true, if_false] at unread
        exact unread
    | true =>
        simp only [Bool.not_true, Bool.false_eq_true, if_false, Exec.wp_bind, Exec.wp_pure]
        refine wp_on_load _ _ fun data _ => ?_
        have some := rest data
        simp only [readable, if_true] at some
        rw [entered_clamped, clamped_eq]
        exact some

theorem wp_take (count length : Nat) (some : 0 < count) (nonempty : 0 < fifo.used)
    {post : Unit → State T → Prop} (rest : ∀ next, Loses fifo next → post () next) :
    wp True (take fifo.used count length) post thrown fifo := by
  simp only [take, Exec.wp_bind, Exec.wp_assert, Exec.wp_modify, wp_notifyIfOn]
  intro _
  refine rest _ ⟨fifo.used - count, by omega, _, ?_, rfl⟩
  exact ⟨rfl, rfl, rfl, rfl, rfl, rfl, rfl⟩

theorem Loses.left {next : State T} (loses : Loses fifo.entered next) :
    Loses fifo { next with mutex := next.mutex.leave } := by
  obtain ⟨used, less, notified⟩ := loses
  exact ⟨used, less, notified.left⟩

theorem wp_read {length : Nat} (positive : 0 < length)
    (readable : fifo.isReadable = true) :
    wp True (read length) (fun _ => Loses fifo) (Loses fifo) fifo := by
  have nonempty : 0 < fifo.entered.used := used_of_readable readable
  rw [read, if_neg (by omega)]
  refine wp_locked (.inr trivial) ?_
  rw [Exec.wp_bind, Exec.wp_get, Exec.wp_ite, if_neg (by simp [readable]), Exec.wp_bind]
  refine wp_peek _ fun data => ?_
  simp only [entered_isReadable, readable, if_true, Exec.wp_bind]
  refine wp_take _ _ ?_ nonempty fun next loses => loses.left
  omega

theorem wp_read_idle {length : Nat} (idle : ¬ (0 < length ∧ fifo.isReadable = true)) :
    wp True (read length) (fun _ => Frame fifo) (Frame fifo) fifo := by
  rw [read, Exec.wp_ite]
  split
  · exact Frame.refl fifo
  · refine wp_locked (.inr trivial) ?_
    rw [Exec.wp_bind, Exec.wp_get, Exec.wp_ite, if_pos]
    · exact Frame.refl fifo
    · cases readable : fifo.isReadable with
      | false => simp [readable]
      | true => exact absurd ⟨by omega, readable⟩ idle

section Target

variable [Inhabited T]

theorem wp_callOn_resize {deadlock : Prop} (target : Buffer T) (length : Nat)
    {post : Unit × Buffer T → State T → Prop} (foreign : target.ownMem = false → thrown fifo)
    (rest : ∀ next, target.ownMem = true → post ((), next) fifo) :
    wp deadlock (Exec.callOn target (Buffer.resize length true)) post thrown fifo := by
  rw [Exec.wp_callOn]
  exact Buffer.wp_resize _ _ foreign fun next owned _ _ => rest next owned

theorem wp_peekBuffer (target : Buffer T) (length : Nat)
    (readable : fifo.isReadable = true) {post : Nat × Buffer T → State T → Prop}
    (foreign : target.ownMem = false → thrown fifo)
    (rest : ∀ count filled, target.ownMem = true → 0 < count → post (count, filled) fifo) :
    wp True (peekBuffer target length) post thrown fifo := by
  have nonempty := used_of_readable readable
  have bounds := clampedOrAll_bounds fifo length nonempty
  refine wp_locked (.inr trivial) ?_
  rw [Exec.wp_bind, Exec.wp_get, Exec.wp_ite, if_neg (by simp [readable]), Exec.wp_bind]
  refine wp_callOn_resize _ _ foreign fun resized owned => ?_
  rw [Exec.wp_bind]
  refine wp_peek _ fun data => ?_
  simp only [entered_isReadable, readable, if_true, Exec.wp_bind, Exec.wp_pure,
    Exec.wp_callOn]
  refine Buffer.wp_store _ _ fun filled _ => rest _ filled owned ?_
  rw [entered_clampedOrAll, entered_used]
  omega

theorem wp_peekBuffer_frame (target : Buffer T) (length : Nat) :
    wp True (peekBuffer target length) (fun _ => Frame fifo) (Frame fifo) fifo := by
  cases readable : fifo.isReadable with
  | false =>
      refine wp_locked (.inr trivial) ?_
      rw [Exec.wp_bind, Exec.wp_get, Exec.wp_ite, if_pos (by simp [readable])]
      exact Frame.refl fifo
  | true =>
      exact wp_peekBuffer target length readable (fun _ => Frame.refl fifo)
        fun _ _ _ _ => Frame.refl fifo

theorem wp_readBuffer {target : Buffer T} (length : Nat)
    (readable : fifo.isReadable = true) (owned : target.ownMem = true) :
    wp True (readBuffer target length) (fun _ => Loses fifo) (Loses fifo) fifo := by
  have nonempty : 0 < fifo.entered.used := used_of_readable readable
  have readable : fifo.entered.isReadable = true := readable
  refine wp_locked (.inr trivial) ?_
  rw [Exec.wp_bind, Exec.wp_get, Exec.wp_ite, if_neg (by simp [readable]), Exec.wp_bind]
  refine wp_peekBuffer target length readable ?_ fun count filled _ some => ?_
  · intro foreign
    rw [owned] at foreign
    contradiction
  · simp only [Exec.wp_bind]
    exact wp_take _ _ some nonempty fun next loses => loses.left

theorem wp_readBuffer_idle (target : Buffer T) (length : Nat)
    (idle : ¬ (fifo.isReadable = true ∧ target.ownMem = true)) :
    wp True (readBuffer target length) (fun _ => Frame fifo) (Frame fifo) fifo := by
  refine wp_locked (.inr trivial) ?_
  rw [Exec.wp_bind, Exec.wp_get, Exec.wp_ite]
  cases readable : fifo.entered.isReadable with
  | false => exact Frame.refl fifo
  | true =>
      rw [if_neg (by simp), Exec.wp_bind]
      exact wp_peekBuffer target length readable (fun _ => Frame.refl fifo)
        fun _ _ owned _ => absurd ⟨readable, owned⟩ idle

theorem wp_resize {newSize : Nat} {preserveContent : Bool}
    (accepted : fifo.refusesResize newSize preserveContent = false)
    {post : Unit → State T → Prop}
    (rest : ∀ next, 0 < newSize →
      Notified fifo newSize (if preserveContent then fifo.used else 0) next → post () next) :
    wp True (resize newSize preserveContent) post thrown fifo := by
  simp only [State.refusesResize, Bool.or_eq_false_iff, Bool.and_eq_false_iff,
    decide_eq_false_iff_not, Bool.not_eq_false'] at accepted
  obtain ⟨fits, owned⟩ := accepted
  have kept : ¬ (preserveContent = true ∧ newSize < fifo.entered.used) := by
    rintro ⟨rfl, less⟩
    exact (fits.resolve_left (by simp)) less
  refine wp_locked (.inr trivial) ?_
  rw [Exec.wp_bind, Exec.wp_get, Exec.wp_ite, if_neg kept, Exec.wp_bind, Exec.wp_on]
  refine Buffer.wp_resize _ _ ?_ fun buffer _ positive size => ?_
  · intro foreign
    have foreign : fifo.buffer.ownMem = false := foreign
    rw [owned] at foreign
    contradiction
  · rw [Exec.wp_bind, Exec.wp_when]
    cases preserveContent with
    | true =>
        simp only [Bool.not_true, Bool.false_eq_true, if_false, wp_notifyIfOn]
        refine rest _ positive (Notified.left ⟨_, ?_, rfl⟩)
        exact ⟨size, rfl, rfl, rfl, rfl, rfl, rfl⟩
    | false =>
        simp only [Bool.not_false, if_true, Exec.wp_modify, wp_notifyIfOn]
        refine rest _ positive (Notified.left ⟨_, ?_, rfl⟩)
        exact ⟨size, rfl, rfl, rfl, rfl, rfl, rfl⟩

theorem wp_resize_refused {newSize : Nat} {preserveContent : Bool}
    (refused : fifo.refusesResize newSize preserveContent = true) :
    wp True (resize newSize preserveContent) (fun _ => Frame fifo) (Frame fifo) fifo := by
  refine wp_locked (.inr trivial) ?_
  rw [Exec.wp_bind, Exec.wp_get, Exec.wp_ite]
  split
  · exact Frame.refl fifo
  · rename_i kept
    rw [Exec.wp_bind, Exec.wp_on]
    refine Buffer.wp_resize _ _ (fun _ => Frame.refl fifo) fun buffer owned _ _ => ?_
    have owned : fifo.buffer.ownMem = true := owned
    have loss : preserveContent = true ∧ newSize < fifo.used := by
      simpa [State.refusesResize, owned] using refused
    exact absurd loss kept

end Target

theorem wp_subscript (index : Nat) {post : T → State T → Prop}
    (refused : thrown fifo) (rest : ∀ element, post element fifo) :
    wp True (subscript index) post thrown fifo := by
  refine wp_locked (.inr trivial) ?_
  rw [Exec.wp_bind, Exec.wp_get, Exec.wp_ite]
  split
  · exact refused
  · rw [Exec.wp_bind, Exec.wp_assert]
    intro _
    split
    · exact rest _
    · trivial

theorem wp_of_lockable {body : Method T α} {value : α} {next : State T}
    {post : α → State T → Prop}
    (ran : fifo.mutex.Lockable → (locked body).run fifo = .ok value next)
    (holds : post value next) : wp True (locked body) post thrown fifo := by
  by_cases lockable : fifo.mutex.Lockable
  · exact (Exec.wp_of_ok (ran lockable)).mpr holds
  · exact (Exec.wp_of_deadlock (run_locked_of_held lockable)).mpr trivial

theorem notified_drained (length : Nat) :
    (Op.drain length).Tells fifo ((fifo.drained length).notified fifo.used) := by
  have becomes : Becomes fifo fifo.size (fifo.drained length).used (fifo.drained length) :=
    ⟨rfl, rfl, rfl, rfl, rfl, rfl, rfl⟩
  simp only [Op.Tells]
  split
  · refine ⟨_, ?_, _, becomes, rfl⟩
    simp only [State.drained, exhausted_iff]
    split <;> omega
  · refine ⟨_, ?_, rfl⟩
    have same : (fifo.drained length).used = fifo.used := by
      simp only [State.drained, exhausted_iff]
      split <;> omega
    rw [same] at becomes
    exact becomes

theorem tells [Inhabited T] (counted : Counted fifo) (op : Op T) {next : State T}
    (stepped : step fifo op = some next) : op.Tells fifo next := by
  obtain ⟨⟨result, last⟩, returned, rfl⟩ := Option.map_eq_some_iff.mp stepped
  suffices holds : wp True op.run (fun _ => op.Tells fifo) (op.Tells fifo) fifo by
    rcases Exec.wp_returns returned holds with ⟨_, _, told⟩ | told
    · exact told
    · exact told
  cases op with
  | write data =>
      rw [Op.run, Exec.wp_map]
      exact wp_write data
  | writeBuffer source length =>
      rw [Op.run, Exec.wp_map]
      exact wp_write _
  | copy data =>
      rw [Op.run, Exec.wp_map]
      exact wp_copy counted data
  | fill data =>
      rw [Op.run, Exec.wp_map]
      exact wp_fill counted data
  | advance length =>
      rw [Op.run, Exec.wp_map]
      exact wp_advance counted length
  | read length =>
      rw [Op.run, Exec.wp_map]
      by_cases reads : 0 < length ∧ fifo.isReadable = true
      · refine Exec.wp_mono ?_ ?_ (wp_read reads.1 reads.2)
        · exact fun _ next loses => (if_pos reads).mpr loses
        · exact fun next loses => (if_pos reads).mpr loses
      · refine Exec.wp_mono ?_ ?_ (wp_read_idle reads)
        · exact fun _ next frame => (if_neg reads).mpr frame
        · exact fun next frame => (if_neg reads).mpr frame
  | readBuffer target length =>
      rw [Op.run, Exec.wp_map]
      by_cases reads : fifo.isReadable = true ∧ target.val.ownMem = true
      · refine Exec.wp_mono ?_ ?_ (wp_readBuffer length reads.1 reads.2)
        · exact fun _ next loses => (if_pos reads).mpr loses
        · exact fun next loses => (if_pos reads).mpr loses
      · refine Exec.wp_mono ?_ ?_ (wp_readBuffer_idle target.val length reads)
        · exact fun _ next frame => (if_neg reads).mpr frame
        · exact fun next frame => (if_neg reads).mpr frame
  | peek length =>
      rw [Op.run, Exec.wp_map]
      exact wp_peek length fun _ => Frame.refl fifo
  | peekBuffer target length =>
      rw [Op.run, Exec.wp_map]
      exact wp_peekBuffer_frame target.val length
  | drain length =>
      rw [Op.run, Exec.wp_map]
      exact wp_of_lockable (run_drain length) (notified_drained length)
  | begin =>
      rw [Op.run, Exec.wp_map]
      exact wp_begin (.inr trivial) fun _ frame => frame
  | next =>
      rw [Op.run, Exec.wp_map]
      exact wp_next fun _ _ frame => frame
  | setError error =>
      rw [Op.run, Exec.wp_map]
      cases error with
      | true => exact wp_of_lockable run_setError_true rfl
      | false => exact wp_of_lockable run_setError_false rfl
  | setEOF eof =>
      rw [Op.run, Exec.wp_map]
      exact wp_of_lockable (run_setEOF eof) rfl
  | resize newSize preserveContent =>
      rw [Op.run, Exec.wp_map]
      cases refused : fifo.refusesResize newSize preserveContent with
      | true =>
          refine Exec.wp_mono ?_ ?_ (wp_resize_refused refused)
          · exact fun _ next frame => (if_pos refused).mpr frame
          · exact fun next frame => (if_pos refused).mpr frame
      | false =>
          have accepted : ¬ fifo.refusesResize newSize preserveContent = true := by
            simp [refused]
          exact wp_resize refused fun next positive notified =>
            (if_neg accepted).mpr ⟨positive, notified⟩
  | subscript index =>
      rw [Op.run, Exec.wp_map]
      exact wp_subscript index (Frame.refl fifo) fun _ => Frame.refl fifo

end Tells

/-! The steps that mislead a subscriber. -/

/-- The operations that leave the subscriber with the truth, given that it had
it.  `notify` does not look at `eof` or the old size, `setEOF(false)` and
`setError(false)` do not look at the size. -/
def TellsTruth (fifo : State T) : Op T → Prop
  | .read length => ¬ (fifo.isFull ∧ fifo.eof ∧ 0 < fifo.used ∧ 0 < length)
  | .readBuffer target _ =>
      ¬ (fifo.isFull ∧ fifo.eof ∧ 0 < fifo.used ∧ target.val.ownMem)
  | .drain _ => ¬ (fifo.isFull ∧ fifo.eof ∧ 0 < fifo.used)
  | .setError error => error ∨ fifo.eof ∨ ¬ fifo.isFull
  | .setEOF eof => eof ∨ ¬ fifo.isFull ∧ ¬ fifo.error
  | .resize newSize preserveContent =>
      fifo.refusesResize newSize preserveContent ∨
        if fifo.error ∨ fifo.eof then preserveContent ∨ fifo.used ≠ newSize
        else if preserveContent then fifo.isFull ↔ fifo.used = newSize
        else ¬ fifo.isFull ∨ fifo.used = newSize
  | _ => True

def seen (fifo next : State T) : View :=
  (next.emitted.drop fifo.emitted.length).foldl View.see fifo.view

section Truth

variable {fifo next : State T}

theorem seen_of_frame (frame : Frame fifo next) : seen fifo next = next.view := by
  have readable : next.isReadable = fifo.isReadable := by
    simp only [State.isReadable, State.isEmpty, State.isValid, frame.used, frame.error]
  rw [seen, frame.emitted, List.drop_length, State.view, State.view, frame.isWritable,
    readable]
  rfl

theorem see_writable_edge (rises falls : Bool) (view : View) :
    (fifo.edge .writable rises falls).foldl View.see view =
      { view with
        writable := if rises then true else if falls then false else view.writable } := by
  cases rises <;> cases falls <;> rfl

theorem see_readable_edge (rises falls : Bool) (view : View) :
    (fifo.edge .readable rises falls).foldl View.see view =
      { view with
        readable := if rises then true else if falls then false else view.readable } := by
  cases rises <;> cases falls <;> rfl

theorem seen_of_notified {size used : Nat} (on : fifo.notify = true)
    (notified : Notified fifo size used next) :
    next.size = size ∧ next.used = used ∧ next.eof = fifo.eof ∧
      next.error = fifo.error ∧ next.notify = fifo.notify ∧
      seen fifo next =
        ⟨if fifo.used = size ∧ used < size then true
          else if fifo.used < size ∧ used = size then false else fifo.isWritable,
          if fifo.used = 0 ∧ used > 0 then true
          else if fifo.used > 0 ∧ 0 = used then false else fifo.isReadable⟩ := by
  obtain ⟨middle, becomes, rfl⟩ := notified
  obtain ⟨rfl, rfl, _, notify, eof, error, emitted⟩ := becomes
  refine ⟨rfl, rfl, eof, error, notify, ?_⟩
  simp only [seen, State.notified, notify, on, if_true, emitted, List.drop_left,
    State.edges, List.foldl_append, see_readable_edge, see_writable_edge, decide_eq_true_eq]
  rfl

theorem view_eq (fifo : State T) :
    fifo.view =
      ⟨!decide (fifo.size = fifo.used) && !fifo.error && !fifo.eof,
        !decide (0 = fifo.used) && !fifo.error⟩ := rfl

theorem isFull_iff : fifo.isFull = true ↔ fifo.size = fifo.used := decide_eq_true_iff

theorem right_of_gains (on : fifo.notify = true) (gains : Gains fifo next) :
    seen fifo next = next.view := by
  cases gains with
  | inl frame => exact seen_of_frame frame
  | inr grown =>
      obtain ⟨writable, used, more, within, notified⟩ := grown
      obtain ⟨size, count, eof, error, _, view⟩ := seen_of_notified on notified
      have open' := writable
      simp only [State.isWritable, State.isFull, State.isValid, Bool.and_eq_true,
        Bool.not_eq_true', decide_eq_false_iff_not] at open'
      obtain ⟨⟨room, valid⟩, running⟩ := open'
      rw [view, view_eq, size, count, eof, error, valid, running, writable,
        View.mk.injEq, State.isReadable, State.isEmpty, State.isValid, valid]
      grind

theorem right_of_loses (counted : Counted fifo) (on : fifo.notify = true)
    (loses : Loses fifo next) :
    seen fifo next = next.view ↔ ¬ (fifo.isFull ∧ fifo.eof) := by
  obtain ⟨used, less, notified⟩ := loses
  obtain ⟨size, count, eof, error, _, view⟩ := seen_of_notified on notified
  have within := counted.within
  have valid : fifo.error = false := by
    cases failed : fifo.error with
    | false => rfl
    | true => exact absurd (counted.error_empty failed) (by omega)
  rw [view, view_eq, size, count, eof, error, valid, isFull_iff, View.mk.injEq,
    State.isReadable, State.isWritable, State.isEmpty, State.isFull, State.isValid, valid]
  grind

theorem right_of_same (on : fifo.notify = true)
    (notified : Notified fifo fifo.size fifo.used next) : seen fifo next = next.view := by
  obtain ⟨size, count, eof, error, _, view⟩ := seen_of_notified on notified
  rw [view, view_eq, size, count, eof, error, View.mk.injEq,
    State.isReadable, State.isWritable, State.isEmpty, State.isFull, State.isValid]
  grind

theorem readable_of_used (counted : Counted fifo) (nonempty : 0 < fifo.used) :
    fifo.isReadable = true := by
  cases failed : fifo.error with
  | true => exact absurd (counted.error_empty failed) (by omega)
  | false =>
      simp only [State.isReadable, State.isEmpty, State.isValid, failed]
      simp
      omega

theorem right_of_resized (counted : Counted fifo) (on : fifo.notify = true)
    {newSize : Nat} {preserveContent : Bool} (positive : 0 < newSize)
    (notified : Notified fifo newSize (if preserveContent then fifo.used else 0) next) :
    seen fifo next = next.view ↔
      if fifo.error ∨ fifo.eof then preserveContent ∨ fifo.used ≠ newSize
      else if preserveContent then fifo.isFull ↔ fifo.used = newSize
      else ¬ fifo.isFull ∨ fifo.used = newSize := by
  obtain ⟨size, count, eof, error, _, view⟩ := seen_of_notified on notified
  have within := counted.within
  have empty := counted.error_empty
  rw [view, view_eq, size, count, eof, error, isFull_iff, View.mk.injEq,
    State.isReadable, State.isWritable, State.isEmpty, State.isFull, State.isValid]
  cases preserveContent <;> grind

theorem seen_of_emitted {signal : Signal} {rises falls : Bool}
    (emitted : next.emitted = fifo.emitted ++ fifo.edge signal rises falls) :
    seen fifo next = (fifo.edge signal rises falls).foldl View.see fifo.view := by
  rw [seen, emitted, List.drop_left]

theorem right_of_failed (on : fifo.notify = true) :
    seen fifo fifo.failed = fifo.failed.view := by
  simp only [seen, State.failed, List.append_assoc, List.drop_left, List.foldl_append,
    see_readable_edge, see_writable_edge, State.view, on]
  cases readable : fifo.isReadable <;> cases writable : fifo.isWritable <;>
    simp [State.isReadable, State.isWritable, State.isValid]

theorem right_of_recovered (counted : Counted fifo) (on : fifo.notify = true) :
    seen fifo fifo.recovered = fifo.recovered.view ↔ fifo.eof ∨ ¬ fifo.isFull := by
  have empty := counted.error_empty
  have view : fifo.recovered.view =
      ⟨!decide (fifo.size = fifo.used) && !fifo.eof, !decide (0 = fifo.used)⟩ := by
    rw [view_eq]
    simp only [State.recovered, Bool.not_false, Bool.and_true]
    rfl
  rw [seen_of_emitted rfl, see_writable_edge, view, view_eq, isFull_iff, View.mk.injEq, on]
  cases ended : fifo.eof <;> cases failed : fifo.error <;> grind

theorem right_of_ended (eof : Bool) (on : fifo.notify = true) :
    seen fifo (fifo.ended eof) = (fifo.ended eof).view ↔
      eof ∨ ¬ fifo.isFull ∧ ¬ fifo.error := by
  have view : (fifo.ended eof).view =
      ⟨!decide (fifo.size = fifo.used) && !fifo.error && !eof,
        !decide (0 = fifo.used) && !fifo.error⟩ := rfl
  rw [seen_of_emitted rfl, see_writable_edge, view, view_eq, isFull_iff, View.mk.injEq, on]
  cases eof <;> grind

/-- The step lemma: a subscriber with the truth keeps it through exactly the
steps that tell the truth. -/
theorem right_iff (counted : Counted fifo) (on : fifo.notify = true) {op : Op T}
    (told : op.Tells fifo next) : seen fifo next = next.view ↔ TellsTruth fifo op := by
  cases op with
  | write | writeBuffer | copy | fill | advance =>
      exact ⟨fun _ => trivial, fun _ => right_of_gains on told⟩
  | begin | next | peek | peekBuffer | subscript =>
      exact ⟨fun _ => trivial, fun _ => seen_of_frame told⟩
  | read length =>
      simp only [Op.Tells] at told
      split at told
      · rename_i reads
        have nonempty := used_of_readable reads.2
        rw [right_of_loses counted on told]
        simp [TellsTruth, nonempty, reads.1]
      · rename_i idle
        refine ⟨fun _ => ?_, fun _ => seen_of_frame told⟩
        intro ⟨_, _, nonempty, positive⟩
        exact idle ⟨positive, readable_of_used counted nonempty⟩
  | readBuffer target length =>
      simp only [Op.Tells] at told
      split at told
      · rename_i reads
        have nonempty := used_of_readable reads.1
        rw [right_of_loses counted on told]
        simp [TellsTruth, nonempty, reads.2]
      · rename_i idle
        refine ⟨fun _ => ?_, fun _ => seen_of_frame told⟩
        intro ⟨_, _, nonempty, owned⟩
        exact idle ⟨readable_of_used counted nonempty, owned⟩
  | drain length =>
      simp only [Op.Tells] at told
      split at told
      · rename_i nonempty
        rw [right_of_loses counted on told]
        simp [TellsTruth, nonempty]
      · rename_i empty
        refine ⟨fun _ => ?_, fun _ => right_of_same on told⟩
        intro ⟨_, _, nonempty⟩
        exact empty nonempty
  | setError error =>
      subst told
      cases error with
      | true => exact ⟨fun _ => .inl rfl, fun _ => right_of_failed on⟩
      | false =>
          rw [if_neg Bool.false_ne_true, right_of_recovered counted on]
          simp [TellsTruth]
  | setEOF eof =>
      subst told
      rw [right_of_ended eof on, TellsTruth]
  | resize newSize preserveContent =>
      simp only [Op.Tells] at told
      split at told
      · rename_i refused
        exact ⟨fun _ => .inl refused, fun _ => seen_of_frame told⟩
      · rename_i accepted
        rw [right_of_resized counted on told.1 told.2, TellsTruth]
        exact (or_iff_right accepted).symm

theorem counted_of_notified {size used : Nat} (within : used ≤ size)
    (empty : fifo.error = true → used = 0) (notified : Notified fifo size used next) :
    Counted next ∧ next.notify = fifo.notify := by
  obtain ⟨middle, becomes, rfl⟩ := notified
  obtain ⟨rfl, rfl, _, notify, _, error, _⟩ := becomes
  exact ⟨⟨within, fun failed => empty (error ▸ failed)⟩, notify⟩

theorem Counted.after (counted : Counted fifo) {op : Op T} (told : op.Tells fifo next) :
    Counted next ∧ next.notify = fifo.notify := by
  have within := counted.within
  have framed : Frame fifo next → Counted next ∧ next.notify = fifo.notify :=
    fun frame => ⟨counted.of_frame frame, frame.notify⟩
  have lost : Loses fifo next → Counted next ∧ next.notify = fifo.notify := by
    rintro ⟨used, less, notified⟩
    refine counted_of_notified (by omega) (fun failed => ?_) notified
    have empty := counted.error_empty failed
    omega
  cases op with
  | write | writeBuffer | copy | fill | advance =>
      rcases told with frame | ⟨writable, used, more, fits, notified⟩
      · exact framed frame
      · refine counted_of_notified fits (fun failed => ?_) notified
        rw [valid_of_writable writable] at failed
        contradiction
  | begin | next | peek | peekBuffer | subscript => exact framed told
  | read | readBuffer =>
      simp only [Op.Tells] at told
      split at told
      · exact lost told
      · exact framed told
  | drain length =>
      simp only [Op.Tells] at told
      split at told
      · exact lost told
      · exact counted_of_notified within counted.error_empty told
  | setError error =>
      subst told
      cases error with
      | true => exact ⟨⟨Nat.zero_le _, fun _ => rfl⟩, rfl⟩
      | false => exact ⟨⟨within, fun failed => absurd failed Bool.false_ne_true⟩, rfl⟩
  | setEOF eof =>
      subst told
      exact ⟨⟨within, counted.error_empty⟩, rfl⟩
  | resize newSize preserveContent =>
      simp only [Op.Tells] at told
      split at told
      · exact framed told
      · rename_i accepted
        refine counted_of_notified ?_ ?_ told.2
        · cases preserveContent with
          | true =>
              simp only [State.refusesResize, Bool.true_and, Bool.or_eq_true,
                decide_eq_true_eq, not_or, Nat.not_lt] at accepted
              exact accepted.1
          | false => exact Nat.zero_le _
        · intro failed
          rw [counted.error_empty failed, ite_self]

end Truth

section Run

variable [Inhabited T]

theorem counted_build (construction : Construction T) (recursive notify : Bool) :
    Counted (construction.build recursive notify) := by
  cases construction with
  | ofSize size => exact ⟨Nat.zero_le _, fun _ => rfl⟩
  | ofMemory memory => exact ⟨Nat.zero_le _, fun _ => rfl⟩
  | ofCopy memory =>
      exact ⟨Nat.le_refl _, fun failed => absurd failed Bool.false_ne_true⟩

/-- A subscriber is never left with a wrong view throughout exactly the runs
whose steps all tell the truth, wherever in the life of a buffer it starts. -/
theorem right_iff_tells_truth (construction : Construction T) (recursive : Bool)
    (before ops : List (Op T)) {fifo : State T}
    (reached : Runs.exec step (construction.build recursive true) before = some fifo) :
    Runs.Always Subscribed.step Subscribed.Right ⟨fifo, fifo.view⟩ ops ↔
      Runs.Each Subscribed.step (fun subscribed op => TellsTruth subscribed.fifo op)
        ⟨fifo, fifo.view⟩ ops := by
  have start : Counted fifo ∧ fifo.notify = true := by
    refine Runs.exec_keeps (fun fifo => Counted fifo ∧ fifo.notify = true)
      (fun fifo op next holds stepped => ?_) ⟨counted_build _ _ _, ?_⟩ reached
    · have after := holds.1.after (tells holds.1 op stepped)
      exact ⟨after.1, after.2.trans holds.2⟩
    · cases construction <;> rfl
  refine Runs.always_iff_each
    (fun subscribed : Subscribed T => (Counted subscribed.fifo ∧ subscribed.fifo.notify = true) ∧
      subscribed.Right)
    (fun subscribed op next holds stepped truth => ?_)
    (fun subscribed holds => holds.2)
    (fun subscribed op next holds stepped right => ?_)
    ⟨start, rfl⟩
  · obtain ⟨⟨counted, on⟩, right⟩ := holds
    obtain ⟨last, moved, rfl⟩ := Option.map_eq_some_iff.mp stepped
    have told := tells counted op moved
    have after := counted.after told
    refine ⟨⟨after.1, after.2.trans on⟩, ?_⟩
    rw [Subscribed.Right, right]
    exact (right_iff counted on told).mpr truth
  · obtain ⟨⟨counted, on⟩, before⟩ := holds
    obtain ⟨last, moved, rfl⟩ := Option.map_eq_some_iff.mp stepped
    have told := tells counted op moved
    rw [Subscribed.Right, before] at right
    exact (right_iff counted on told).mp right

theorem right_iff_tells_truth_of_one_byte :
    Runs.Always Subscribed.step Subscribed.Right
        ⟨(Construction.ofCopy [7]).build false true, ⟨false, true⟩⟩
        [(.drain 0 : Op UInt8)] ↔
      Runs.Each Subscribed.step (fun subscribed op => TellsTruth subscribed.fifo op)
        ⟨(Construction.ofCopy [7]).build false true, ⟨false, true⟩⟩
        [(.drain 0 : Op UInt8)] :=
  right_iff_tells_truth (.ofCopy [7]) false [] [.drain 0] rfl

/-- A full buffer with EOF set: to drain it signals `writable(true)`, though it
stays unwritable. -/
theorem drain_after_eof_misleads :
    ∃ subscribed : Subscribed UInt8,
      Runs.exec Subscribed.step
        ⟨(Construction.ofCopy [7]).build false true,
          ((Construction.ofCopy [7]).build false true).view⟩
        [.setEOF true, .drain 0] = some subscribed ∧
      subscribed.view.writable = true ∧ subscribed.fifo.isWritable = false :=
  ⟨_, rfl, rfl, rfl⟩

end Run

end BasicFIFOBuffer

end TestReactor
