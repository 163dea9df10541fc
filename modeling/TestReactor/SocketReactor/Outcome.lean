import TestReactor.SocketReactor.Effect

namespace TestReactor

namespace Epoll

/-- An `epoll_ctl` that succeeds, or says that what is to be added is listed already. -/
structure Willing (refusal : Nat → CtlOp → Bool → Option Nat) : Prop where
  add : ∀ n present, refusal n .add present = none ∨ refusal n .add present = some Errno.EEXIST
  mod : ∀ n present, refusal n .mod present = none
  del : ∀ n present, refusal n .del present = none

theorem willing_obliging : Willing obliging where
  add _ present := by cases present <;> simp [obliging]
  mod _ _ := rfl
  del _ _ := rfl

end Epoll

namespace PollSet

variable {pollSet : PollSet}

@[simp] theorem refusal_controlled (op : CtlOp) (fd : Int) (event : Epoll.Event Nat) :
    (pollSet.controlled op fd event).epoll.refusal = pollSet.epoll.refusal :=
  Epoll.refusal_ctl

@[simp] theorem refusal_shut (socket : SocketRef) :
    (pollSet.shut socket).epoll.refusal = pollSet.epoll.refusal := Epoll.refusal_ctl

@[simp] theorem refusal_remembered (socket : SocketRef) :
    (pollSet.remembered socket).epoll.refusal = pollSet.epoll.refusal := by
  unfold remembered
  split <;> rfl

@[simp] theorem refusal_registered (socket : SocketRef) (mode : Mode) :
    (pollSet.registered socket mode).2.epoll.refusal = pollSet.epoll.refusal := by
  unfold registered
  split
  · split <;> simp
  · simp

theorem registered_of_willing (willing : Epoll.Willing pollSet.epoll.refusal) {socket : SocketRef}
    (unclosed : pollSet.epoll.closed socket.sockfd = false) (mode : Mode) :
    (pollSet.registered socket mode).1 = none := by
  unfold registered
  split
  case h_1 errno refused =>
    have same : errno = Errno.EEXIST := by
      have answer := willing.add pollSet.epoll.calls (pollSet.epoll.interest socket.sockfd).isSome
      rw [← Epoll.refused_add, refused] at answer
      exact Option.some.inj (answer.resolve_left (Option.some_ne_none errno))
    have still : (pollSet.controlled .add socket.sockfd
        ⟨events mode, socket.address⟩).epoll.closed socket.sockfd = false := by
      rw [controlled, Epoll.closed_of_refused refused, unclosed]
    rw [if_pos same, Epoll.refused_of_open still, refusal_controlled]
    exact willing.mod _ _
  case h_2 => rfl

end PollSet

namespace SocketReactor

/-! What a call comes to when no mutex stands in its way, in closed form. -/

variable {reactor : SocketReactor}

/-- What `addEventHandler` and its call on the poll set come to: the errno that is thrown, if
one is, and the reactor that is left. -/
def addition (reactor : SocketReactor) (socket : SocketRef) (observer : Observer) :
    Option Nat × SocketReactor :=
  let n := (reactor.arrived socket.sockfd).1
  let next := (reactor.arrived socket.sockfd).2.enrolled n observer
  if next.interest n = 0 then (none, next)
  else
    match reactor.pollSet.registered socket (next.interest n) with
    | (none, pollSet) => (none, next.withPollSet (pollSet.remembered socket))
    | (some errno, pollSet) => (some errno, next.withPollSet pollSet)

def lastRemoval (reactor : SocketReactor) (socket : SocketRef) : Option Nat × SocketReactor :=
  (some reactor.pollSet.epoll.missing, reactor.forgotten socket (reactor.pollSet.shut socket))

def earlyRemoval (reactor : SocketReactor) (socket : SocketRef) (observer : Observer)
    (n id : Nat) : Option Nat × SocketReactor :=
  let next := reactor.delisted n observer id
  if socket.sockfd > 0 then
    (reactor.pollSet.epoll.refused .mod socket.sockfd,
      next.withPollSet (reactor.pollSet.controlled .mod socket.sockfd
        ⟨PollSet.events (next.interest n), socket.address⟩))
  else (none, next)

def removal (reactor : SocketReactor) (socket : SocketRef) (observer : Observer) :
    Option Nat × SocketReactor :=
  match reactor.listing socket observer with
  | none => (none, reactor)
  | some (n, id) =>
      if (reactor.notifiers n).observers.length = 1 then
        reactor.lastRemoval socket
      else reactor.earlyRemoval socket observer n id

def outcome (reactor : SocketReactor) : Call → Option Nat × SocketReactor
  | .add socket observer => reactor.addition socket observer
  | .remove socket observer => reactor.removal socket observer

def ended (outcome : Option Nat × SocketReactor) : EStateM.Result Stop SocketReactor Unit :=
  match outcome with
  | (some errno, next) => .error (.throw (ServerSocket.message errno)) next
  | (none, next) => .ok () next

section

variable {socket : SocketRef} {observer : Observer} {n id : Nat}

theorem run_addition (unlocked : reactor.Unlocked) (socket : SocketRef) (observer : Observer) :
    (addEventHandler socket observer).run reactor = ended (reactor.addition socket observer) := by
  have ran := run_addEventHandler unlocked socket observer
  have same := (pollSet_enrolled (reactor.arrived socket.sockfd).2
    (reactor.arrived socket.sockfd).1 observer).trans (pollSet_arrived reactor socket.sockfd)
  simp only at ran
  rw [ran]
  simp only [addition]
  generalize (reactor.arrived socket.sockfd).1 = n at same ⊢
  generalize (reactor.arrived socket.sockfd).2.enrolled n observer = next at same ⊢
  by_cases silent : next.interest n = 0
  · simp [silent, ended]
  · have free : next.pollSet.mutex.Lockable := same ▸ unlocked.pollSet
    have added := PollSet.run_add free socket (next.interest n)
    rw [if_neg silent, ← same]
    simp only [ne_eq, silent, not_false_eq_true, decide_true, Exec.run_when_true, Exec.run_on,
      show pollSetField.get next = next.pollSet from rfl, added]
    cases outcome : next.pollSet.registered socket (next.interest n) with
    | mk err pollSet => cases err <;> rfl

theorem run_earlyRemoval (unlocked : reactor.Unlocked)
    (listed : reactor.listing socket observer = some (n, id))
    (more : (reactor.notifiers n).observers.length ≠ 1)
    (free : (reactor.cells id).mutex.Lockable) :
    (removeEventHandler socket observer).run reactor =
      ended (reactor.earlyRemoval socket observer n id) := by
  have same := pollSet_delisted reactor n observer id
  rw [run_removeEventHandler_more unlocked listed more free]
  unfold earlyRemoval
  generalize reactor.delisted n observer id = next at same ⊢
  by_cases positive : socket.sockfd > 0
  · have updated : (PollSet.update socket (next.interest n)).run next.pollSet = _ :=
      PollSet.run_update socket (next.interest n)
    simp only [positive, decide_true, Exec.run_when_true, Exec.run_on,
      show pollSetField.get next = next.pollSet from rfl, updated, if_true]
    rw [same]
    cases reactor.pollSet.epoll.refused .mod socket.sockfd <;> rfl
  · simp [positive, ended]

theorem run_call (unlocked : reactor.Unlocked)
    (free : ∀ id, (reactor.cells id).mutex.Lockable) (call : Call) :
    call.run.run reactor = ended (reactor.outcome call) := by
  cases call with
  | add socket observer => exact run_addition unlocked socket observer
  | remove socket observer =>
      simp only [Call.run, outcome, removal]
      cases listed : reactor.listing socket observer with
      | none => exact run_removeEventHandler_unlisted unlocked listed
      | some found =>
          obtain ⟨n, id⟩ := found
          by_cases last : (reactor.notifiers n).observers.length = 1
          · simp only [if_pos last]
            exact run_removeEventHandler_last unlocked listed last
          · simp only [if_neg last]
            exact run_earlyRemoval unlocked listed last (free id)

theorem comes_outcome (unlocked : reactor.Unlocked)
    (free : ∀ id, (reactor.cells id).mutex.Lockable) (call : Call) :
    Comes call.run reactor (reactor.outcome call).2 (reactor.outcome call).1.isNone := by
  have ran := run_call unlocked free call
  cases outcome : reactor.outcome call with
  | mk err next =>
      rw [outcome] at ran
      cases err with
      | none => exact ran
      | some errno => exact ⟨_, ran⟩

theorem Comes.unique {body : Method Unit} {next after : SocketReactor} {ok ok' : Bool}
    (comes : Comes body reactor next ok) (ends : Comes body reactor after ok') :
    ok' = ok ∧ after = next := by
  cases ok <;> cases ok' <;> simp only [Comes] at comes ends
  case false.false =>
    obtain ⟨_, thrown⟩ := comes
    obtain ⟨_, thrown'⟩ := ends
    rw [thrown] at thrown'
    cases thrown'
    exact ⟨rfl, rfl⟩
  case false.true =>
    obtain ⟨_, thrown⟩ := comes
    rw [thrown] at ends
    contradiction
  case true.false =>
    obtain ⟨_, thrown⟩ := ends
    rw [comes] at thrown
    contradiction
  case true.true =>
    rw [comes] at ends
    cases ends
    exact ⟨rfl, rfl⟩

theorem effect_outcome (unlocked : reactor.Unlocked)
    (free : ∀ id, (reactor.cells id).mutex.Lockable) (call : Call) :
    Effect reactor call (reactor.outcome call).2 (reactor.outcome call).1.isNone := by
  rcases effect_of_run unlocked call with ⟨stuck, _⟩ | ⟨_, next, ok, ends, effect⟩
  · cases call with
    | add socket observer => exact stuck.elim
    | remove socket observer =>
        obtain ⟨n, id, _, held, _⟩ := stuck
        exact absurd (free id) held
  · obtain ⟨rfl, rfl⟩ := (comes_outcome unlocked free call).unique ends
    exact effect

@[simp] theorem pollSet_withPollSet (pollSet : PollSet) :
    (reactor.withPollSet pollSet).pollSet = pollSet := rfl

@[simp] theorem pollSet_forgotten (pollSet : PollSet) :
    (reactor.forgotten socket pollSet).pollSet = pollSet := rfl

theorem refusal_outcome (reactor : SocketReactor) (call : Call) :
    (reactor.outcome call).2.pollSet.epoll.refusal = reactor.pollSet.epoll.refusal := by
  cases call with
  | add socket observer =>
      have kept : ∀ mode, (reactor.pollSet.registered socket mode).2.epoll.refusal =
          reactor.pollSet.epoll.refusal := PollSet.refusal_registered socket
      simp only [outcome, addition]
      split
      · rw [pollSet_enrolled, pollSet_arrived]
      · split <;> rename_i registered
        · rw [pollSet_withPollSet, PollSet.refusal_remembered, ← kept, registered]
        · rw [pollSet_withPollSet, ← kept, registered]
  | remove socket observer =>
      simp only [outcome, removal]
      split
      · rfl
      · split
        · simp [lastRemoval]
        · unfold earlyRemoval
          split <;> simp [pollSet_delisted]

end

end SocketReactor

end TestReactor
