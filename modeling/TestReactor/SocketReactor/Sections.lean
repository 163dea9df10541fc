import TestReactor.SocketReactor.Outcome
import TestReactor.Threads

namespace TestReactor

namespace SocketReactor

/-! The calls of `addEventHandler` and `removeEventHandler`, cut where they let go of a
mutex: any number of threads may make them, and their sections come in any order. -/

/-- Where a call stands.  `n` is the notifier that it has found; `rest` are the notifications
that the notifier is still to be asked about. -/
inductive Stage where
  | start
  | found (n : Nat)
  | absent (n : Nat)
  | listed (n : Nat)
  | last (n : Nat)
  | erased (n : Nat)
  | leaving (n : Nat) (last : Bool)
  | left (n : Nat)
  | asking (n : Nat) (mode : PollSet.Mode) (rest : List (SocketNotification × PollSet.Mode))
  | returned
  | thrown (what : String)
  deriving DecidableEq, Repr

def modes : List (SocketNotification × PollSet.Mode) :=
  [(.readable, PollSet.POLL_READ), (.writable, PollSet.POLL_WRITE),
    (.error, PollSet.POLL_ERROR)]

def ask (n : Nat) (mode : PollSet.Mode) (notification : SocketNotification)
    (bit : PollSet.Mode) : Method PollSet.Mode := do
  let reactor ← get
  let accepted ← SocketNotifier.accepts n (reactor.pointer notification)
  return if accepted then mode ||| bit else mode

/-- The next section of a call, if it has not ended. -/
def Call.section : Call → Stage → Option (Method Stage)
  | .add socket _, .start => some do
      match ← getNotifier socket.sockfd true with
      | some n => return .found n
      | none => Exec.raise .fault
  | .add _ observer, .found n => some do
      if ← NotificationCenter.hasObserver n observer then return .asking n 0 modes
      else return .absent n
  | .add _ observer, .absent n => some do
      SocketNotifier.addObserver n observer
      return .asking n 0 modes
  | .add _ _, .asking n mode ((notification, bit) :: rest) => some do
      return .asking n (← ask n mode notification bit) rest
  | .add socket _, .asking _ mode [] => some do
      Exec.when (mode ≠ 0) (Exec.on pollSetField (PollSet.add socket mode))
      return .returned
  | .remove socket _, .start => some do
      match ← getNotifier socket.sockfd false with
      | some n => return .found n
      | none => return .returned
  | .remove _ observer, .found n => some do
      if ← NotificationCenter.hasObserver n observer then return .listed n
      else return .returned
  | .remove _ _, .listed n => some do
      if (← NotificationCenter.countObservers n) = 1 then return .last n
      else return .leaving n false
  | .remove socket _, .last n => some do
      scopedLock mutexField (modify fun reactor => reactor.erased socket.sockfd)
      return .erased n
  | .remove socket _, .erased n => some do
      Exec.on pollSetField (PollSet.remove socket)
      return .leaving n true
  | .remove _ observer, .leaving n _ => some do
      SocketNotifier.removeObserver n observer
      return .left n
  | .remove socket _, .left n => some do
      if (← NotificationCenter.countObservers n) > 0 && socket.sockfd > 0 then
        return .asking n 0 modes
      else return .returned
  | .remove _ _, .asking n mode ((notification, bit) :: rest) => some do
      return .asking n (← ask n mode notification bit) rest
  | .remove socket _, .asking _ mode [] => some do
      Exec.on pollSetField (PollSet.update socket mode)
      return .returned
  | _, _ => none

/-- A thread, its call and where the call stands. -/
structure Caller where
  call : Call
  stage : Stage

/-- A thread runs the next section of its call. -/
def act (reactor : SocketReactor) (caller : Caller) (_ : Unit) :
    Option (SocketReactor × Caller) := do
  let body ← caller.call.section caller.stage
  match ← body.returns reactor with
  | (.ok stage, next) => some (next, { caller with stage := stage })
  | (.error what, next) => some (next, { caller with stage := .thrown what })

def Call.through (call : Call) : Nat → Stage → Method Unit
  | 0, _ => Exec.raise .blocked
  | fuel + 1, stage =>
      match call.section stage with
      | none => pure ()
      | some body => do through call fuel (← body)

section

variable {reactor : SocketReactor}

theorem run_ask (n : Nat) (mode : PollSet.Mode) (notification : SocketNotification)
    (bit : PollSet.Mode) (free : (reactor.notifiers n).mutex.Lockable) :
    (ask n mode notification bit).run reactor =
      .ok (if (reactor.notifiers n).events.contains (reactor.pointer notification) then
        mode ||| bit else mode) reactor := by
  simp only [ask, EStateM.run_bind, EStateM.run_get, SocketNotifier.run_accepts n _ free,
    EStateM.run_pure]

theorem run_ask_deadlock (n : Nat) (mode : PollSet.Mode) (notification : SocketNotification)
    (bit : PollSet.Mode) (held : ¬ (reactor.notifiers n).mutex.Lockable) :
    (ask n mode notification bit).run reactor = .error .deadlock reactor := by
  have deadlocked : ∀ pointer, (SocketNotifier.accepts n pointer).run reactor =
      .error .deadlock reactor :=
    fun pointer => run_scopedLock_of_not_lockable (notifierMutex n) _ held
  simp only [ask, EStateM.run_bind, EStateM.run_get, deadlocked]

theorem ask_modes (n : Nat) :
    (do
      let mode ← ask n 0 .readable PollSet.POLL_READ
      let mode ← ask n mode .writable PollSet.POLL_WRITE
      ask n mode .error PollSet.POLL_ERROR) = mode n := by
  funext reactor
  show EStateM.run _ reactor = EStateM.run _ reactor
  by_cases free : (reactor.notifiers n).mutex.Lockable
  · simp only [EStateM.run_bind, EStateM.run_get, EStateM.run_pure, run_ask n _ _ _ free,
      SocketNotifier.run_accepts n _ free]
    cases (reactor.notifiers n).events.contains (reactor.pointer .readable) <;>
      cases (reactor.notifiers n).events.contains (reactor.pointer .writable) <;>
      cases (reactor.notifiers n).events.contains (reactor.pointer .error) <;> rfl
  · have deadlocked : ∀ pointer, (SocketNotifier.accepts n pointer).run reactor =
        .error .deadlock reactor := fun pointer =>
      run_scopedLock_of_not_lockable (notifierMutex n) _ free
    simp only [EStateM.run_bind, EStateM.run_get, run_ask_deadlock n _ _ _ free, deadlocked]

theorem through_step {call : Call} {stage : Stage} {body : Method Stage}
    (next : call.section stage = some body) (fuel : Nat) :
    call.through (fuel + 1) stage = body >>= call.through fuel := by
  simp only [Call.through, next]

theorem through_returned (call : Call) (fuel : Nat) :
    call.through (fuel + 1) .returned = pure () := by
  cases call <;> rfl

theorem through_asking (call : Call) (n fuel : Nat) :
    call.through (fuel + 4) (.asking n 0 modes) =
      mode n >>= fun asked => call.through (fuel + 1) (.asking n asked []) := by
  rw [← ask_modes]
  cases call <;> simp only [Call.through, Call.section, modes, bind_assoc, pure_bind]

/-- The sections of a call, left to themselves, are the call. -/
theorem through_add (socket : SocketRef) (observer : Observer) :
    (Call.add socket observer).through 12 .start = addEventHandler socket observer := by
  have asking (n fuel : Nat) : (Call.add socket observer).through (fuel + 5) (.asking n 0 modes) =
      mode n >>= fun mode =>
        Exec.when (mode ≠ 0) (Exec.on pollSetField (PollSet.add socket mode)) := by
    rw [through_asking _ n (fuel + 1)]
    congr
    funext mode
    rw [through_step rfl, bind_assoc]
    simp only [pure_bind, through_returned, bind_pure_unit]
  rw [through_step rfl, addEventHandler, bind_assoc]
  congr
  funext found
  cases found with
  | none => rfl
  | some n =>
      simp only [pure_bind]
      rw [through_step rfl, bind_assoc]
      congr
      funext has
      cases has with
      | true => exact (asking n 5).trans (by simp [Exec.when])
      | false =>
          simp only [Bool.false_eq_true, if_false, pure_bind]
          rw [through_step rfl, bind_assoc]
          simp only [pure_bind, asking n 4, Exec.when, Bool.not_false, if_true]

theorem through_remove (socket : SocketRef) (observer : Observer) :
    (Call.remove socket observer).through 12 .start = removeEventHandler socket observer := by
  have asking (n fuel : Nat) :
      (Call.remove socket observer).through (fuel + 5) (.asking n 0 modes) =
        mode n >>= fun mode => Exec.on pollSetField (PollSet.update socket mode) := by
    rw [through_asking _ n (fuel + 1)]
    congr
    funext mode
    rw [through_step rfl, bind_assoc]
    simp only [pure_bind, through_returned, bind_pure_unit]
  have leaving (n fuel : Nat) (last : Bool) :
      (Call.remove socket observer).through (fuel + 7) (.leaving n last) = (do
        SocketNotifier.removeObserver n observer
        let count ← NotificationCenter.countObservers n
        Exec.when (count > 0 && socket.sockfd > 0) do
          let mode ← mode n
          Exec.on pollSetField (PollSet.update socket mode)) := by
    rw [through_step rfl, bind_assoc]
    congr
    funext _
    rw [pure_bind, through_step rfl, bind_assoc]
    congr
    funext count
    unfold Exec.when
    split
    · rw [pure_bind, asking n fuel]
    · rw [pure_bind, through_returned]
  rw [through_step rfl, removeEventHandler, bind_assoc]
  congr
  funext found
  cases found with
  | none => rfl
  | some n =>
      simp only [pure_bind]
      rw [through_step rfl, bind_assoc]
      congr
      funext has
      cases has with
      | false => rfl
      | true =>
          simp only [if_true, pure_bind, Exec.when]
          rw [through_step rfl, bind_assoc]
          congr
          funext count
          by_cases single : count = 1
          · subst single
            simp only [decide_true, if_true, forget, bind_assoc]
            rw [pure_bind, through_step rfl, bind_assoc]
            congr
            funext _
            rw [pure_bind, through_step rfl, bind_assoc]
            congr
            funext _
            rw [pure_bind, leaving n 0]
            rfl
          · simp only [single, if_false, decide_false, Bool.false_eq_true, pure_bind]
            rw [leaving n 2]
            rfl

theorem through_start (call : Call) : call.through 12 .start = call.run := by
  cases call with
  | add socket observer => exact through_add socket observer
  | remove socket observer => exact through_remove socket observer

end

end SocketReactor

end TestReactor
