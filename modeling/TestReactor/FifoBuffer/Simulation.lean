import TestReactor.FifoBuffer.Operation
import TestReactor.Reentrant

namespace TestReactor

namespace BasicFIFOBuffer

/-! A buffer with its mutex and one with a re-entrant mutex in its place. -/

def State.relocked (fifo : State T) : State T :=
  { fifo with mutex := { fifo.mutex with recursive := true } }

theorem relocks : Relocks (State.relocked (T := T)) mutexField :=
  ⟨fun _ => rfl, fun _ => rfl, fun _ => rfl⟩

theorem spares : Spares (State.relocked (T := T)) bufferField :=
  ⟨fun _ => rfl, fun _ _ => rfl⟩

section Simulation

theorem simulates_locked {body : Method T α} (inner : Simulates State.relocked body) :
    Simulates State.relocked (locked body) :=
  .scopedLock relocks inner

theorem simulates_emit (signal : Signal) (value : Bool) :
    Simulates (State.relocked (T := T)) (emit signal value) :=
  .modify fun _ => rfl

theorem simulates_raiseEdge (signal : Signal) (rises falls : Bool) :
    Simulates (State.relocked (T := T)) (raiseEdge signal rises falls) :=
  .ite (simulates_emit signal true) (.ite (simulates_emit signal false) (.pure ()))

theorem simulates_notifyIfOn (usedBefore : Nat) :
    Simulates (State.relocked (T := T)) (notifyIfOn usedBefore) := by
  refine .get_bind (fun _ => rfl) fun fifo => .when fifo.notify ?_
  refine .get_bind (fun _ => rfl) fun fifo => ?_
  exact .bind (simulates_raiseEdge _ _ _) fun _ => simulates_raiseEdge _ _ _

theorem simulates_begin : Simulates (State.relocked (T := T)) begin := by
  refine simulates_locked (.get_bind (fun _ => rfl) fun fifo => ?_)
  refine .bind (.when _ ?_) fun _ => .pure 0
  refine .get_bind (fun _ => rfl) fun fifo => ?_
  exact .bind (.on spares _) fun _ => .modify fun _ => rfl

theorem simulates_next : Simulates (State.relocked (T := T)) next := by
  refine simulates_locked (.bind simulates_begin fun start => ?_)
  exact .get_bind (fun _ => rfl) fun fifo => .pure _

theorem simulates_makeRoom (length : Nat) :
    Simulates (State.relocked (T := T)) (makeRoom length) := by
  refine .get_bind (fun _ => rfl) fun fifo => .when _ ?_
  refine .bind simulates_begin fun source => .get_bind (fun _ => rfl) fun fifo => ?_
  exact .bind (.on spares _) fun _ => .modify fun _ => rfl

theorem simulates_peek (length : Nat) :
    Simulates (State.relocked (T := T)) (peek length) := by
  refine .ite (.pure _) (simulates_locked (.get_bind (fun _ => rfl) fun fifo => ?_))
  exact .ite (.pure _) (.bind (.on spares _) fun data => .pure _)

theorem simulates_peekBuffer [Inhabited T] (target : Buffer T) (length : Nat) :
    Simulates (State.relocked (T := T)) (peekBuffer target length) := by
  refine simulates_locked (.get_bind (fun _ => rfl) fun fifo => .ite (.pure _) ?_)
  refine .bind (.callOn _ _) fun resized => .bind (simulates_peek _) fun peeked => ?_
  exact .bind (.callOn _ _) fun stored => .pure _

theorem simulates_take (usedBefore count length : Nat) :
    Simulates (State.relocked (T := T)) (take usedBefore count length) := by
  refine .bind (.assert _) fun _ => .bind (.modify fun _ => rfl) fun _ => ?_
  exact .bind (.modify fun _ => rfl) fun _ => simulates_notifyIfOn usedBefore

theorem simulates_read (length : Nat) :
    Simulates (State.relocked (T := T)) (read length) := by
  refine .ite (.pure _) (simulates_locked (.get_bind (fun _ => rfl) fun fifo => ?_))
  refine .ite (.pure _) (.bind (simulates_peek length) fun peeked => ?_)
  exact .bind (simulates_take _ _ _) fun _ => .pure _

theorem simulates_readBuffer [Inhabited T] (target : Buffer T) (length : Nat) :
    Simulates (State.relocked (T := T)) (readBuffer target length) := by
  refine simulates_locked (.get_bind (fun _ => rfl) fun fifo => .ite (.pure _) ?_)
  refine .bind (simulates_peekBuffer target length) fun peeked => ?_
  exact .bind (simulates_take _ _ _) fun _ => .pure _

theorem simulates_putBehind (data : List T) :
    Simulates (State.relocked (T := T)) (putBehind data) := by
  refine .bind simulates_begin fun start => .get_bind (fun _ => rfl) fun fifo => ?_
  exact .bind (.on spares _) fun _ => .modify fun _ => rfl

theorem simulates_write (data : List T) :
    Simulates (State.relocked (T := T)) (write data) := by
  refine .ite (.pure _) (simulates_locked (.get_bind (fun _ => rfl) fun fifo => ?_))
  refine .ite (.pure _) (.bind (simulates_makeRoom _) fun _ => ?_)
  refine .get_bind (fun _ => rfl) fun fifo => ?_
  refine .bind (simulates_putBehind _) fun _ => .get_bind (fun _ => rfl) fun fifo => ?_
  exact .bind (.assert _) fun _ => .bind (simulates_notifyIfOn _) fun _ => .pure _

theorem simulates_checkRoom (length : Nat) :
    Simulates (State.relocked (T := T)) (checkRoom length) := by
  refine .get_bind (fun _ => rfl) fun fifo => ?_
  exact .ite (.raise _) (.ite (.raise _) (.pure ()))

theorem simulates_copy (data : List T) :
    Simulates (State.relocked (T := T)) (copy data) := by
  refine .ite (.pure _) (simulates_locked (.bind (simulates_checkRoom _) fun _ => ?_))
  refine .get_bind (fun _ => rfl) fun fifo => ?_
  exact .bind (simulates_putBehind data) fun _ => simulates_notifyIfOn _

theorem simulates_advance (length : Nat) :
    Simulates (State.relocked (T := T)) (advance length) := by
  refine simulates_locked (.bind (simulates_checkRoom _) fun _ => ?_)
  refine .bind (simulates_makeRoom _) fun _ => .get_bind (fun _ => rfl) fun fifo => ?_
  exact .bind (.modify fun _ => rfl) fun _ => simulates_notifyIfOn _

theorem simulates_fill (data : List T) :
    Simulates (State.relocked (T := T)) (fill data) := by
  refine .get_bind (fun _ => rfl) fun fifo => .ite (.raise _) ?_
  refine .bind simulates_next fun start => ?_
  exact .bind (.on spares _) fun _ => simulates_advance _

theorem simulates_drain (length : Nat) :
    Simulates (State.relocked (T := T)) (drain length) := by
  refine simulates_locked (.get_bind (fun _ => rfl) fun fifo => ?_)
  refine .ite ?_ ?_
  · exact .bind (.modify fun _ => rfl) fun _ => simulates_notifyIfOn _
  · exact .bind (.modify fun _ => rfl) fun _ => simulates_notifyIfOn _

theorem simulates_setError (error : Bool) :
    Simulates (State.relocked (T := T)) (setError error) := by
  refine .ite (simulates_locked ?_) (simulates_locked ?_)
  · refine .get_bind (fun _ => rfl) fun fifo => ?_
    refine .bind (.when _ (simulates_emit _ _)) fun _ => ?_
    exact .bind (.when _ (simulates_emit _ _)) fun _ => .modify fun _ => rfl
  · refine .bind (.modify fun _ => rfl) fun _ => .get_bind (fun _ => rfl) fun fifo => ?_
    exact .when _ (simulates_emit _ _)

theorem simulates_setEOF (eof : Bool) :
    Simulates (State.relocked (T := T)) (setEOF eof) := by
  refine simulates_locked (.get_bind (fun _ => rfl) fun fifo => ?_)
  exact .bind (.when _ (simulates_emit _ _)) fun _ => .modify fun _ => rfl

theorem simulates_resize [Inhabited T] (newSize : Nat) (preserveContent : Bool) :
    Simulates (State.relocked (T := T)) (resize newSize preserveContent) := by
  refine simulates_locked (.get_bind (fun _ => rfl) fun fifo => .ite (.raise _) ?_)
  refine .bind (.on spares _) fun _ => .bind (.when _ (.modify fun _ => rfl)) fun _ => ?_
  exact simulates_notifyIfOn _

theorem simulates_subscript (index : Nat) :
    Simulates (State.relocked (T := T)) (subscript index) := by
  refine simulates_locked (.get_bind (fun _ => rfl) fun fifo => .ite (.raise _) ?_)
  refine .bind (.assert _) fun _ => ?_
  split
  · exact .pure _
  · exact .raise _

theorem simulates_run [Inhabited T] (op : Op T) : Simulates State.relocked op.run := by
  cases op with
  | write data => exact .map _ (simulates_write data)
  | writeBuffer source length => exact .map _ (simulates_write _)
  | copy data => exact .map _ (simulates_copy data)
  | fill data => exact .map _ (simulates_fill data)
  | advance length => exact .map _ (simulates_advance length)
  | read length => exact .map _ (simulates_read length)
  | readBuffer target length => exact .map _ (simulates_readBuffer target.val length)
  | peek length => exact .map _ (simulates_peek length)
  | peekBuffer target length => exact .map _ (simulates_peekBuffer target.val length)
  | drain length => exact .map _ (simulates_drain length)
  | begin => exact .map _ simulates_begin
  | next => exact .map _ simulates_next
  | setError error => exact .map _ (simulates_setError error)
  | setEOF eof => exact .map _ (simulates_setEOF eof)
  | resize newSize preserveContent => exact .map _ (simulates_resize newSize _)
  | subscript index => exact .map _ (simulates_subscript index)

end Simulation

end BasicFIFOBuffer

end TestReactor
