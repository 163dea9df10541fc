import TestReactor.ServerSocket.Spec

namespace TestReactor

/-! Whether `receiveBytes(FIFOBuffer&)` keeps the bytes that it takes from the
socket. -/

namespace ServerSocket

open BasicFIFOBuffer

/-- What the kernel has for a `recv`: nothing at all when the call fails, no bytes when
the peer has closed the stream. -/
def arriving (socket : ServerSocket) (answers : List (Except Nat (List UInt8))) :
    Option (List UInt8) :=
  if socket.sockfd = INVALID_SOCKET then none
  else
    match socket.settle answers with
    | some (.ok data) => some data
    | _ => none

/-- The bytes that leave the socket when `length` are asked for. -/
def taken (socket : ServerSocket) (length : Int)
    (answers : List (Except Nat (List UInt8))) : List UInt8 :=
  ((socket.arriving answers).getD []).take (asSize length)

/-- The call returns `ret` for just as many bytes that it has put behind the content, or
takes no byte and leaves the content alone; it returns 0 for a closed stream only. -/
def Keeps (socket : ServerSocket) (answers : List (Except Nat (List UInt8)))
    (fifo : State UInt8) : Prop :=
  let bytes := socket.taken (asInt fifo.available) answers
  match (socket.receiveBytesFIFO answers).run fifo with
  | .ok (ret, _) next =>
      (0 < ret ∧ bytes.length = ret ∧ next.content = fifo.content ++ bytes ∨
        bytes = [] ∧ next.content = fifo.content) ∧
      (ret = 0 → socket.arriving answers = some [])
  | .error (.throw _) next | .error .blocked next =>
      bytes = [] ∧ next.content = fifo.content
  | .error _ _ => False

/-- When the kernel has data, the FIFO may grow, at least one byte is asked for, and no
more arrive than are free. -/
def TakesIn (socket : ServerSocket) (answers : List (Except Nat (List UInt8)))
    (fifo : State UInt8) : Prop :=
  ∀ data, socket.arriving answers = some data → data ≠ [] →
    fifo.isWritable = true ∧ 0 < asSize (asInt fifo.available) ∧
      min data.length (asSize (asInt fifo.available)) ≤ fifo.available

section

variable {socket : ServerSocket} {answers : List (Except Nat (List UInt8))}
  {fifo : State UInt8}

theorem takesIn_iff_of_small (within : fifo.used ≤ fifo.size) (small : fifo.size < 2 ^ 31) :
    TakesIn socket answers fifo ↔
      ∀ data, socket.arriving answers = some data → data ≠ [] →
        fifo.isWritable = true := by
  have available : fifo.available = fifo.size - fifo.used := SizeT.sub_of_le within
  have asked : asSize (asInt fifo.available) = fifo.available := by
    rw [asInt_of_lt (by omega), asSize_of_lt (by omega)]
  constructor
  · intro takes data arrives nonempty
    exact (takes data arrives nonempty).1
  · intro writable data arrives nonempty
    have grows := writable data arrives nonempty
    have free : ¬ fifo.size = fifo.used := by
      simp only [BasicFIFOBuffer.State.isWritable, State.isFull, Bool.and_eq_true,
        Bool.not_eq_true', decide_eq_false_iff_not] at grows
      exact grows.1.1
    rw [asked]
    exact ⟨grows, by omega, Nat.min_le_right _ _⟩

theorem connected_of_arriving {data : List UInt8}
    (arrives : socket.arriving answers = some data) :
    socket.sockfd ≠ INVALID_SOCKET ∧ socket.settle answers = some (.ok data) := by
  unfold arriving at arrives
  split at arrives
  · contradiction
  · rename_i connected
    split at arrives
    · rename_i settled
      cases arrives
      exact ⟨connected, settled⟩
    · contradiction

theorem run_receiveBytes_of_not_arriving (length : Int)
    (nothing : socket.arriving answers = none) (state : σ) :
    (∃ ret, ret < 0 ∧ (socket.receiveBytes length answers).run state = .ok (ret, []) state) ∨
      (∃ what, (socket.receiveBytes length answers).run state =
        .error (.throw what) state) ∨
      (socket.receiveBytes length answers).run state = .error .blocked state := by
  unfold arriving at nothing
  split at nothing
  case isTrue invalid => exact .inl ⟨-1, by decide, by rw [receiveBytes, if_pos invalid]; rfl⟩
  case isFalse connected =>
    cases settled : socket.settle answers with
    | none =>
        refine .inr (.inr ?_)
        rw [receiveBytes, if_neg connected, settled]
        rfl
    | some answer =>
        cases answer with
        | ok data => simp [settled] at nothing
        | error errno =>
            by_cases again : errno = Errno.EAGAIN ∧ (!socket.blocking) = true
            · refine .inl ⟨-1, by decide, ?_⟩
              simp only [receiveBytes, if_neg connected, settled, if_pos again]
              rfl
            · by_cases late : errno = Errno.EAGAIN ∨ errno = Errno.ETIMEDOUT
              · refine .inl ⟨-2, by decide, ?_⟩
                simp only [receiveBytes, if_neg connected, settled, if_neg again,
                  if_pos late]
                rfl
              · refine .inr (.inl ⟨message errno "", ?_⟩)
                simp only [receiveBytes, if_neg connected, settled, if_neg again,
                  if_neg late]
                rfl

/-- The section that `receiveBytes(FIFOBuffer&)` locks, up to its `recv`. -/
theorem run_receiveBytesFIFO_eq (cells : fifo.begin + fifo.used ≤ fifo.buffer.cells.length)
    (recursive : fifo.mutex.recursive = true) :
    (socket.receiveBytesFIFO answers).run fifo =
      releasing mutexField
        (match (socket.receiveBytes (asInt fifo.available) answers).run
            fifo.compacted.entered with
        | .ok (ret, data) next =>
            ((do
              Exec.on bufferField (Buffer.store fifo.used data)
              Exec.when (ret > 0) (BasicFIFOBuffer.advance ret.toNat)
              pure (ret, data)) : Method UInt8 (Int × List UInt8)).run next
        | .error stop next => .error stop next) := by
  have inside : fifo.entered.begin + fifo.entered.used ≤ fifo.entered.buffer.cells.length :=
    cells
  have moved := run_next_of_inside inside recursive
  rw [compacted_entered, entered_used] at moved
  have lockable : (mutexField.get fifo).Lockable := .of_recursive recursive
  rw [receiveBytesFIFO, locked, run_scopedLock_of_lockable mutexField _ lockable]
  apply congrArg
  show EStateM.run _ fifo.entered = _
  rw [EStateM.run_bind, moved]
  show EStateM.run _ fifo.compacted.entered = _
  rw [EStateM.run_bind, EStateM.run_get]
  show EStateM.run (socket.receiveBytes (asInt fifo.compacted.entered.available) answers >>= _)
    fifo.compacted.entered = _
  rw [entered_available, compacted_available, EStateM.run_bind]
  cases (socket.receiveBytes (asInt fifo.available) answers).run fifo.compacted.entered with
  | ok value next => rfl
  | error stop next => rfl

theorem run_receiveBytesFIFO_of_none {ret : Int}
    (cells : fifo.begin + fifo.used ≤ fifo.buffer.cells.length)
    (recursive : fifo.mutex.recursive = true)
    (received : (socket.receiveBytes (asInt fifo.available) answers).run
      fifo.compacted.entered = .ok (ret, []) fifo.compacted.entered)
    (none : ret ≤ 0) :
    (socket.receiveBytesFIFO answers).run fifo = .ok (ret, []) fifo.compacted := by
  have stored : (Exec.on bufferField (Buffer.store fifo.used [])).run
      fifo.compacted.entered = .ok () fifo.compacted.entered := rfl
  have negative : decide (ret > 0) = false := decide_eq_false (by omega)
  rw [run_receiveBytesFIFO_eq cells recursive, received]
  simp only [EStateM.run_bind, stored, negative, Exec.run_when_false, EStateM.run_pure,
    releasing_ok]
  rfl

theorem run_receiveBytesFIFO_of_refused {chunk : List UInt8}
    (cells : fifo.begin + fifo.used ≤ fifo.buffer.cells.length)
    (within : fifo.used ≤ fifo.size) (recursive : fifo.mutex.recursive = true)
    (received : (socket.receiveBytes (asInt fifo.available) answers).run
      fifo.compacted.entered = .ok (chunk.length, chunk) fifo.compacted.entered)
    (nonempty : chunk ≠ []) (refused : ¬ Accepts fifo chunk.length) :
    ∃ stop next, (socket.receiveBytesFIFO answers).run fifo = .error stop next ∧
      stop ≠ .blocked := by
  have positive : decide ((chunk.length : Int) > 0) = true := by
    have long := List.length_pos_iff.mpr nonempty
    exact decide_eq_true (by omega)
  rw [run_receiveBytesFIFO_eq cells recursive, received]
  by_cases room : fifo.used + chunk.length ≤ fifo.compacted.entered.buffer.cells.length
  · have stored : (Exec.on bufferField (Buffer.store fifo.used chunk)).run
        fifo.compacted.entered = .ok () (fifo.compacted.staged chunk).entered :=
      run_on_store fifo.compacted.entered fifo.used chunk room
    have advanced := run_advance_refused (fifo.compacted.staged chunk).entered chunk.length
      (by simpa using within) (.of_recursive recursive) (by simpa [Accepts] using refused)
    refine ⟨.throw (refusal (fifo.compacted.staged chunk).entered chunk.length),
      fifo.compacted.staged chunk, ?_, by simp⟩
    simp only [EStateM.run_bind, stored, positive, Exec.run_when_true, Int.toNat_natCast,
      advanced]
    rfl
  · have faulted := run_on_store_of_outside nonempty room
    refine ⟨.fault, fifo.compacted.entered, ?_, by simp⟩
    simp only [EStateM.run_bind, faulted]
    rfl

/-! What the FIFO keeps when no data has come, when none of it is asked for, and when some
of it is taken. -/

theorem keeps_of_not_arriving (cells : fifo.begin + fifo.used ≤ fifo.buffer.cells.length)
    (recursive : fifo.mutex.recursive = true) (nothing : socket.arriving answers = none) :
    Keeps socket answers fifo := by
  have content := content_compacted_of_inside cells
  have none_taken : socket.taken (asInt fifo.available) answers = [] := by
    simp [taken, nothing]
  rcases run_receiveBytes_of_not_arriving (asInt fifo.available) nothing
    fifo.compacted.entered with ⟨ret, negative, ran⟩ | ⟨what, ran⟩ | ran
  · rw [Keeps, none_taken, run_receiveBytesFIFO_of_none cells recursive ran (by omega)]
    exact ⟨.inr ⟨rfl, content⟩, by omega⟩
  · rw [Keeps, none_taken, run_receiveBytesFIFO_eq cells recursive, ran]
    exact ⟨rfl, content⟩
  · rw [Keeps, none_taken, run_receiveBytesFIFO_eq cells recursive, ran]
    exact ⟨rfl, content⟩

section Arriving

variable {data : List UInt8}

theorem taken_of_arriving (arrives : socket.arriving answers = some data) (length : Int) :
    socket.taken length answers = data.take (asSize length) := by
  simp [taken, arrives]

theorem keeps_iff_of_none_taken (cells : fifo.begin + fifo.used ≤ fifo.buffer.cells.length)
    (recursive : fifo.mutex.recursive = true) (arrives : socket.arriving answers = some data)
    (none : data.take (asSize (asInt fifo.available)) = []) :
    Keeps socket answers fifo ↔ TakesIn socket answers fifo := by
  obtain ⟨connected, settled⟩ := connected_of_arriving arrives
  have received := run_receiveBytes (asInt fifo.available) connected settled
    fifo.compacted.entered
  rw [none] at received
  have ran := run_receiveBytesFIFO_of_none cells recursive received (by simp)
  rw [Keeps, taken_of_arriving arrives, none, ran]
  constructor
  · rintro ⟨-, closed⟩ other arrived nonempty
    rw [arrives] at arrived closed
    cases arrived
    exact absurd (Option.some.inj (closed rfl)) nonempty
  · intro takes
    refine ⟨.inr ⟨rfl, content_compacted_of_inside cells⟩, fun _ => ?_⟩
    by_cases empty : data = []
    · rw [arrives, empty]
    · have asked := (takes data arrives empty).2.1
      have long := List.length_pos_iff.mpr empty
      have length := congrArg List.length none
      rw [List.length_take, List.length_nil] at length
      omega

theorem takesIn_iff_accepts (within : fifo.used ≤ fifo.size)
    (arrives : socket.arriving answers = some data)
    (some : data.take (asSize (asInt fifo.available)) ≠ []) :
    TakesIn socket answers fifo ↔
      Accepts fifo (data.take (asSize (asInt fifo.available))).length := by
  have available : fifo.available = fifo.size - fifo.used := SizeT.sub_of_le within
  have long := List.length_pos_iff.mpr some
  have nonempty : data ≠ [] := by
    rintro rfl
    exact some List.take_nil
  have length : (data.take (asSize (asInt fifo.available))).length =
      min data.length (asSize (asInt fifo.available)) := by
    rw [List.length_take, Nat.min_comm]
  constructor
  · intro takes
    obtain ⟨writable, asked, fits⟩ := takes data arrives nonempty
    exact ⟨by omega, writable⟩
  · rintro ⟨room, writable⟩ other arrived _
    rw [arrives] at arrived
    cases arrived
    exact ⟨writable, by omega, by omega⟩

theorem keeps_iff_accepts (wellFormed : fifo.buffer.WellFormed)
    (inside : fifo.begin + fifo.used ≤ fifo.size)
    (cells : fifo.begin + fifo.used ≤ fifo.buffer.cells.length)
    (recursive : fifo.mutex.recursive = true) (arrives : socket.arriving answers = some data)
    (some : data.take (asSize (asInt fifo.available)) ≠ []) :
    Keeps socket answers fifo ↔
      Accepts fifo (data.take (asSize (asInt fifo.available))).length := by
  obtain ⟨connected, settled⟩ := connected_of_arriving arrives
  have within : fifo.used ≤ fifo.size := by omega
  have received := run_receiveBytes (asInt fifo.available) connected settled
    fifo.compacted.entered
  have long := List.length_pos_iff.mpr some
  constructor
  · intro keeps
    refine Decidable.byContradiction fun refused => ?_
    obtain ⟨stop, next, ran, stopped⟩ := run_receiveBytesFIFO_of_refused cells within
      recursive received some refused
    rw [Keeps, taken_of_arriving arrives, ran] at keeps
    cases stop with
    | throw what => exact absurd keeps.1 some
    | blocked => exact absurd rfl stopped
    | deadlock | fault | abort => exact keeps.elim
  · intro accepts
    have sound : Sound fifo := by
      refine ⟨wellFormed, inside, fun failed => ?_⟩
      rw [valid_of_writable accepts.2] at failed
      contradiction
    have room : fifo.compacted.used +
        (data.take (asSize (asInt fifo.available))).length ≤ fifo.compacted.size := by
      have enough := accepts.1
      rw [compacted_used, compacted_size]
      omega
    rw [Keeps, taken_of_arriving arrives,
      run_receiveBytesFIFO_of_taken connected settled rfl sound recursive some accepts]
    refine ⟨.inl ⟨by omega, rfl, ?_⟩, by omega⟩
    rw [notified_content, content_appended sound.compacted rfl room,
      content_compacted_of_inside cells]

end Arriving

/-- `receiveBytes(FIFOBuffer&)` swallows no data exactly when the FIFO takes in what
`recv` gives. -/
theorem keeps_iff_takes_in (socket : ServerSocket)
    (answers : List (Except Nat (List UInt8))) {fifo : State UInt8}
    (wellFormed : fifo.buffer.WellFormed) (inside : fifo.begin + fifo.used ≤ fifo.size)
    (recursive : fifo.mutex.recursive = true) :
    Keeps socket answers fifo ↔ TakesIn socket answers fifo := by
  have cells : fifo.begin + fifo.used ≤ fifo.buffer.cells.length := by
    have capacity := wellFormed.capacity_eq
    have used := wellFormed.used_le
    simp only [State.size, Buffer.size] at inside
    omega
  cases arrives : socket.arriving answers with
  | none =>
      have takes : TakesIn socket answers fifo := by simp [TakesIn, arrives]
      exact iff_of_true (keeps_of_not_arriving cells recursive arrives) takes
  | some data =>
      by_cases taken : data.take (asSize (asInt fifo.available)) = []
      · exact keeps_iff_of_none_taken cells recursive arrives taken
      · have within : fifo.used ≤ fifo.size := by omega
        rw [keeps_iff_accepts wellFormed inside cells recursive arrives taken,
          takesIn_iff_accepts within arrives taken]

end

theorem keeps_iff_takes_in_new :
    let fifo := BasicFIFOBuffer.ofSize 1024 true true
    (Keeps ⟨3, false⟩ [.ok [7]] fifo ↔ TakesIn ⟨3, false⟩ [.ok [7]] fifo) ∧
      fifo.buffer.WellFormed ∧ fifo.begin + fifo.used ≤ fifo.size ∧
      fifo.mutex.recursive = true := by
  have wellFormed : (BasicFIFOBuffer.ofSize 1024 true true : State UInt8).buffer.WellFormed :=
    ⟨List.length_replicate.symm, Nat.le_refl _⟩
  exact ⟨keeps_iff_takes_in _ _ wellFormed (by decide) rfl, wellFormed, by decide, rfl⟩

/-- Four free bytes behind an EOF: `recv` takes a byte, and `advance` throws.  A full
FIFO: nothing is asked for, and the 0 that comes back looks like a closed stream. -/
theorem byte_behind_eof_is_lost :
    ¬ Keeps ⟨3, false⟩ [.ok [7]] { BasicFIFOBuffer.ofSize 4 true with eof := true } ∧
      ¬ Keeps ⟨3, false⟩ [.ok [7]] (BasicFIFOBuffer.ofCopy [1, 2, 3, 4] true) := by
  constructor
  · rintro ⟨lost, -⟩
    contradiction
  · rintro ⟨-, closed⟩
    have arrived := closed rfl
    contradiction

end ServerSocket

end TestReactor
