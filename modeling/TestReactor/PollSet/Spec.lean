import TestReactor.PollSet
import TestReactor.WeakestPre

namespace TestReactor

namespace Epoll

variable {Data : Type} {epoll : Epoll Data} {op : CtlOp} {fd : Int} {event : Event Data}

@[simp] theorem refusal_ctl : (epoll.ctl op fd event).refusal = epoll.refusal := by
  unfold ctl
  split <;> rfl

/-- What an operation leaves for its descriptor, if it succeeds. -/
def left (op : CtlOp) (event : Event Data) : Option (Event Data) :=
  match op with
  | .add => some event
  | .mod => some event
  | .del => none

theorem interest_ctl (accepted : epoll.refused op fd = none) (other : Int) :
    (epoll.ctl op fd event).interest other =
      if other = fd then left op event else epoll.interest other := by
  cases op <;> simp only [ctl, accepted, set, left]

theorem ctl_of_refused {errno : Nat} (refused : epoll.refused op fd = some errno) :
    (epoll.ctl op fd event).interest = epoll.interest := by
  simp only [ctl, refused]

theorem closed_of_refused {errno : Nat} (refused : epoll.refused op fd = some errno) :
    (epoll.ctl op fd event).closed = epoll.closed := by
  simp only [ctl, refused]

theorem unclosed_ctl {other : Int} (unclosed : epoll.closed other = false) :
    (epoll.ctl op fd event).closed other = false := by
  unfold ctl
  split <;> simp [set, unclosed]

theorem unclosed_close {other : Int} (different : other ≠ fd)
    (unclosed : epoll.closed other = false) : (epoll.close fd).closed other = false :=
  (if_neg different).trans (by simpa [set] using unclosed)

@[simp] theorem refusal_close : (epoll.close fd).refusal = epoll.refusal := rfl

@[simp] theorem refusal_closeAll (fds : List Int) :
    (epoll.closeAll fds).refusal = epoll.refusal := by
  induction fds generalizing epoll with
  | nil => rfl
  | cons fd rest ih => exact ih

@[simp] theorem interest_close (other : Int) :
    (epoll.close fd).interest other = if other = fd then none else epoll.interest other := rfl

@[simp] theorem closed_close_self : (epoll.close fd).closed fd = true := if_pos rfl

/-- Why a deletion fails that finds its descriptor closed. -/
def missing (epoll : Epoll Data) : Nat :=
  (epoll.refusal epoll.calls .del false).getD Errno.EBADF

theorem refused_del_close : (epoll.close fd).refused .del fd = some epoll.missing := by
  simp [refused, missing]
  rfl

end Epoll

namespace PollSet

/-! What each method does once it has got its lock. -/

variable {pollSet : PollSet}

def controlled (pollSet : PollSet) (op : CtlOp) (fd : Int) (event : Epoll.Event Nat) :
    PollSet :=
  { pollSet with epoll := pollSet.epoll.ctl op fd event }

/-- What a call of `epoll_ctl` that nobody recovers from comes to. -/
def checked (err : Option Nat) (next : PollSet) : EStateM.Result Stop PollSet Unit :=
  match err with
  | some errno => .error (.throw (ServerSocket.message errno)) next
  | none => .ok () next

theorem run_update (socket : SocketRef) (mode : Mode) :
    (update socket mode).run pollSet =
      checked (pollSet.epoll.refused .mod socket.sockfd)
        (pollSet.controlled .mod socket.sockfd ⟨events mode, socket.address⟩) := by
  cases refused : pollSet.epoll.refused .mod socket.sockfd with
  | none => simp [update, epollCtl, checked, controlled, refused]
  | some errno => simp [update, epollCtl, checked, controlled, refused, ServerSocket.error]

@[simp] theorem refusal_forgotten (socket : SocketRef) :
    (pollSet.forgotten socket).epoll.refusal = pollSet.epoll.refusal := by
  unfold forgotten
  cases pollSet.socketMap[socket.address]? <;> rfl

@[simp] theorem refusal_cleared : pollSet.cleared.epoll.refusal = pollSet.epoll.refusal :=
  Epoll.refusal_closeAll _

def remembered (pollSet : PollSet) (socket : SocketRef) : PollSet :=
  if socket.address ∈ pollSet.socketMap then pollSet
  else { pollSet with socketMap := pollSet.socketMap.insert socket.address socket.sockfd }

theorem run_remove_ok (lockable : pollSet.mutex.Lockable) {socket : SocketRef}
    (accepted : pollSet.epoll.refused .del socket.sockfd = none) :
    (remove socket).run pollSet =
      .ok () ((pollSet.controlled .del socket.sockfd ⟨0, 0⟩).forgotten socket) := by
  apply run_scopedLock_ok mutexField lockable
  simp [mutexField, epollCtl, controlled, forgotten, accepted]

theorem run_remove_throw (lockable : pollSet.mutex.Lockable) {socket : SocketRef} {errno : Nat}
    (refused : pollSet.epoll.refused .del socket.sockfd = some errno) :
    (remove socket).run pollSet =
      .error (.throw (ServerSocket.message errno))
        (pollSet.controlled .del socket.sockfd ⟨0, 0⟩) := by
  apply run_scopedLock_throw mutexField lockable
  simp [mutexField, epollCtl, controlled, refused, ServerSocket.error]

def shut (pollSet : PollSet) (socket : SocketRef) : PollSet :=
  (pollSet.closing socket.sockfd).controlled .del socket.sockfd ⟨0, 0⟩

theorem interest_shut (socket : SocketRef) (fd : Int) :
    (pollSet.shut socket).epoll.interest fd =
      if fd = socket.sockfd then none else pollSet.epoll.interest fd :=
  congrFun (Epoll.ctl_of_refused Epoll.refused_del_close) fd

theorem run_remove_closing (lockable : pollSet.mutex.Lockable) (socket : SocketRef) :
    (remove socket).run (pollSet.closing socket.sockfd) =
      .error (.throw (ServerSocket.message pollSet.epoll.missing)) (pollSet.shut socket) :=
  @run_remove_throw (pollSet.closing socket.sockfd) lockable socket _ Epoll.refused_del_close

/-- A method comes back, with or without an exception, and leaves the lock as it
was. -/
def Settles (body : Method Unit) (pollSet : PollSet) : Prop :=
  Exec.ends body (fun _ next => next.mutex = pollSet.mutex)
    (fun stop next => (∃ what, stop = .throw what) ∧ next.mutex = pollSet.mutex) pollSet

theorem settles_update (pollSet : PollSet) (socket : SocketRef) (mode : Mode) :
    Settles (update socket mode) pollSet := by
  rw [Settles, Exec.ends, run_update]
  cases pollSet.epoll.refused .mod socket.sockfd with
  | none => rfl
  | some errno => exact ⟨⟨_, rfl⟩, rfl⟩

theorem settles_remove (lockable : pollSet.mutex.Lockable) (socket : SocketRef) :
    Settles (remove socket) pollSet := by
  cases refused : pollSet.epoll.refused .del socket.sockfd with
  | none => exact (Exec.ends_of_ok (run_remove_ok lockable refused)).mpr rfl
  | some errno => exact (Exec.ends_of_error (run_remove_throw lockable refused)).mpr ⟨⟨_, rfl⟩, rfl⟩

theorem mutex_remembered (socket : SocketRef) :
    (pollSet.remembered socket).mutex = pollSet.mutex := by
  unfold remembered
  split <;> rfl

theorem epoll_remembered (socket : SocketRef) :
    (pollSet.remembered socket).epoll = pollSet.epoll := by
  unfold remembered
  split <;> rfl

theorem remembered_of_mem {socket : SocketRef} (member : socket.address ∈ pollSet.socketMap) :
    pollSet.remembered socket = pollSet := if_pos member

theorem mem_remembered {socket : SocketRef} {address : Nat} :
    address ∈ (pollSet.remembered socket).socketMap ↔
      address = socket.address ∨ address ∈ pollSet.socketMap := by
  unfold remembered
  split
  case isTrue member =>
    constructor
    · exact .inr
    · rintro (rfl | old)
      · exact member
      · exact old
  case isFalse => simp [Std.TreeMap.mem_insert, eq_comm (a := address)]

def registered (pollSet : PollSet) (socket : SocketRef) (mode : Mode) : Option Nat × PollSet :=
  let event : Epoll.Event Nat := ⟨events mode, socket.address⟩
  let added := pollSet.controlled .add socket.sockfd event
  match pollSet.epoll.refused .add socket.sockfd with
  | some errno =>
      if errno = Errno.EEXIST then
        (added.epoll.refused .mod socket.sockfd, added.controlled .mod socket.sockfd event)
      else (some errno, added)
  | none => (none, added)

theorem run_register (socket : SocketRef) (mode : Mode) :
    (register socket mode).run pollSet =
      checked (pollSet.registered socket mode).1 (pollSet.registered socket mode).2 := by
  unfold registered
  cases refused : pollSet.epoll.refused .add socket.sockfd with
  | none => simp [register, epollCtl, checked, controlled, refused]
  | some errno =>
      by_cases listed : errno = Errno.EEXIST
      · simp only [register, epollCtl, EStateM.run_bind, EStateM.run_get, EStateM.run_set,
          EStateM.run_pure, refused, if_pos listed]
        exact run_update socket mode
      · simp [register, epollCtl, checked, controlled, refused, listed, ServerSocket.error]

theorem mutex_registered (pollSet : PollSet) (socket : SocketRef) (mode : Mode) :
    (pollSet.registered socket mode).2.mutex = pollSet.mutex := by
  unfold registered
  split
  · split <;> rfl
  · rfl

theorem registered_entered (pollSet : PollSet) (socket : SocketRef) (mode : Mode)
    (mutex : Mutex) :
    (mutexField.set mutex pollSet).registered socket mode =
      ((pollSet.registered socket mode).1,
        mutexField.set mutex (pollSet.registered socket mode).2) := by
  unfold registered
  simp only [mutexField, controlled]
  split
  · split <;> rfl
  · rfl

theorem run_add (lockable : pollSet.mutex.Lockable) (socket : SocketRef) (mode : Mode) :
    (add socket mode).run pollSet =
      match pollSet.registered socket mode with
      | (none, next) => .ok () (next.remembered socket)
      | (some errno, next) => checked (some errno) next := by
  have entered := registered_entered pollSet socket mode pollSet.mutex.enter
  have same := mutex_registered pollSet socket mode
  have ran : (register socket mode).run (mutexField.set pollSet.mutex.enter pollSet) = _ :=
    run_register socket mode
  rw [entered] at ran
  cases outcome : pollSet.registered socket mode with
  | mk err next =>
      rw [outcome] at ran same
      cases err with
      | none =>
          apply run_scopedLock_ok mutexField lockable
          rw [EStateM.run_bind]
          simp only [mutexField] at ran ⊢
          rw [ran]
          simp only [checked, EStateM.run_modify, remembered, ← same]
          split <;> rfl
      | some errno =>
          apply run_scopedLock_throw mutexField lockable
          rw [EStateM.run_bind]
          simp only [mutexField] at ran ⊢
          rw [ran, ← same]
          rfl

theorem settles_add (lockable : pollSet.mutex.Lockable) (socket : SocketRef) (mode : Mode) :
    Settles (add socket mode) pollSet := by
  have same := mutex_registered pollSet socket mode
  rw [Settles, Exec.ends, run_add lockable]
  cases outcome : pollSet.registered socket mode with
  | mk err next =>
      rw [outcome] at same
      cases err with
      | none => exact (mutex_remembered socket).trans same
      | some errno => exact ⟨⟨_, rfl⟩, same⟩

theorem run_isEmpty (lockable : pollSet.mutex.Lockable) :
    isEmpty.run pollSet = .ok pollSet.socketMap.isEmpty pollSet := by
  apply run_scopedLock_read mutexField lockable
  simp [mutexField]

theorem run_has (lockable : pollSet.mutex.Lockable) (socket : SocketRef) :
    (has socket).run pollSet = .ok (pollSet.socketMap.contains socket.address) pollSet := by
  apply run_scopedLock_read mutexField lockable
  simp [mutexField]

theorem run_clear (lockable : pollSet.mutex.Lockable) (failure : Option Nat) :
    (clear failure).run pollSet = checked failure pollSet.cleared := by
  cases failure with
  | none =>
      apply run_scopedLock_ok mutexField lockable
      simp [mutexField, cleared]
  | some errno =>
      apply run_scopedLock_throw mutexField lockable
      simp [mutexField, cleared, ServerSocket.error]

theorem run_poll_ok (lockable : pollSet.mutex.Lockable)
    {answers : List (Except Nat (List (Epoll.Event Nat)))} {ready : List (Epoll.Event Nat)}
    (settled : Errno.retried answers = some (.ok ready))
    (nonempty : pollSet.socketMap.isEmpty = false) :
    (poll answers).run pollSet = .ok ((ready.take EVENTS).foldl pollSet.report ∅) pollSet := by
  have idle : (locked do return (← get).socketMap.isEmpty).run pollSet = _ :=
    run_isEmpty lockable
  simp only [poll, EStateM.run_bind, idle, nonempty, Bool.false_eq_true, if_false, settled]
  apply run_scopedLock_read mutexField lockable
  rfl

theorem run_poll (lockable : pollSet.mutex.Lockable)
    (answers : List (Except Nat (List (Epoll.Event Nat)))) :
    (∃ result, (poll answers).run pollSet = .ok result pollSet) ∨
      (∃ what, (poll answers).run pollSet = .error (.throw what) pollSet) ∨
      (poll answers).run pollSet = .error .blocked pollSet := by
  have idle : (locked do return (← get).socketMap.isEmpty).run pollSet = _ :=
    run_isEmpty lockable
  cases empty : pollSet.socketMap.isEmpty with
  | true =>
      refine .inl ⟨∅, ?_⟩
      simp only [poll, EStateM.run_bind, idle, empty]
      rfl
  | false =>
      cases outcome : Errno.retried answers with
      | none =>
          refine .inr (.inr ?_)
          simp only [poll, EStateM.run_bind, idle, empty, outcome]
          rfl
      | some answer =>
          cases answer with
          | error errno =>
              refine .inr (.inl ⟨ServerSocket.message errno, ?_⟩)
              simp only [poll, EStateM.run_bind, idle, empty, outcome]
              rfl
          | ok ready => exact .inl ⟨_, run_poll_ok lockable outcome empty⟩

theorem run_poll_of_settled (lockable : pollSet.mutex.Lockable)
    {answers : List (Except Nat (List (Epoll.Event Nat)))}
    (settled : Errno.retried answers ≠ none) :
    (∃ result, (poll answers).run pollSet = .ok result pollSet) ∨
      ∃ what, (poll answers).run pollSet = .error (.throw what) pollSet := by
  rcases run_poll lockable answers with returned | thrown | waits
  · exact .inl returned
  · exact .inr thrown
  · obtain ⟨answer, outcome⟩ := Option.ne_none_iff_exists'.mp settled
    have idle : (locked do return (← get).socketMap.isEmpty).run pollSet = _ :=
      run_isEmpty lockable
    cases empty : pollSet.socketMap.isEmpty with
    | true =>
        simp only [poll, EStateM.run_bind, idle, empty] at waits
        cases waits
    | false =>
        cases answer with
        | error errno =>
            simp only [poll, EStateM.run_bind, idle, empty, outcome] at waits
            cases waits
        | ok ready => exact .inl ⟨_, run_poll_ok lockable outcome empty⟩

end PollSet

end TestReactor
