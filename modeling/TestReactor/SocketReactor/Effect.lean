import TestReactor.SocketReactor.Spec

namespace TestReactor

namespace SocketReactor

/-! What a call can do to a reactor, said once. -/

variable {reactor next : SocketReactor}

def withPollSet (reactor : SocketReactor) (pollSet : PollSet) : SocketReactor :=
  { reactor with pollSet := pollSet }

/-- A removal reaches `disable` of an observer whose mutex its own chain holds.  The removal
of an only observer does not get that far. -/
def LocksOut (reactor : SocketReactor) : Call → Prop
  | .add _ _ => False
  | .remove socket observer =>
      ∃ n id, reactor.listing socket observer = some (n, id) ∧
        ¬ (reactor.cells id).mutex.Lockable ∧ (reactor.notifiers n).observers.length ≠ 1

/-- The ends of a call that comes back: `ok` tells whether it returned or threw. -/
inductive Effect (reactor : SocketReactor) : Call → SocketReactor → Bool → Prop where
  | added (socket : SocketRef) (observer : Observer) (pollSet : PollSet) (ok : Bool)
      (mutex : pollSet.mutex = reactor.pollSet.mutex) :
      Effect reactor (.add socket observer)
        (((reactor.arrived socket.sockfd).2.enrolled (reactor.arrived socket.sockfd).1
          observer).withPollSet pollSet) ok
  | unlisted (socket : SocketRef) (observer : Observer)
      (absent : reactor.listing socket observer = none) :
      Effect reactor (.remove socket observer) reactor true
  | last (socket : SocketRef) (observer : Observer) (n id : Nat) (pollSet : PollSet)
      (listed : reactor.listing socket observer = some (n, id))
      (last : (reactor.notifiers n).observers.length = 1)
      (mutex : pollSet.mutex = reactor.pollSet.mutex) :
      Effect reactor (.remove socket observer) (reactor.forgotten socket pollSet) false
  | more (socket : SocketRef) (observer : Observer) (n id : Nat) (pollSet : PollSet) (ok : Bool)
      (listed : reactor.listing socket observer = some (n, id))
      (more : (reactor.notifiers n).observers.length ≠ 1)
      (mutex : pollSet.mutex = reactor.pollSet.mutex) :
      Effect reactor (.remove socket observer)
        ((reactor.delisted n observer id).withPollSet pollSet) ok

def Comes (body : Method Unit) (reactor next : SocketReactor) : Bool → Prop
  | true => body.run reactor = .ok () next
  | false => ∃ what, body.run reactor = .error (.throw what) next

theorem comes_of_settles {body : PollSet.Method Unit} (condition : Bool)
    (settles : PollSet.Settles body reactor.pollSet) :
    ∃ pollSet ok, pollSet.mutex = reactor.pollSet.mutex ∧
      Comes (Exec.when condition (Exec.on pollSetField body)) reactor
        (reactor.withPollSet pollSet) ok := by
  cases condition with
  | false => exact ⟨reactor.pollSet, true, rfl, rfl⟩
  | true =>
      unfold PollSet.Settles Exec.ends at settles
      have lifted := Exec.run_on pollSetField body reactor
      rw [show pollSetField.get reactor = reactor.pollSet from rfl] at lifted
      cases ran : body.run reactor.pollSet with
      | ok value pollSet =>
          rw [ran] at settles lifted
          exact ⟨pollSet, true, settles, lifted⟩
      | error stop pollSet =>
          rw [ran] at settles lifted
          obtain ⟨⟨what, rfl⟩, same⟩ := settles
          exact ⟨pollSet, false, same, what, lifted⟩

theorem pollSet_enrolled (reactor : SocketReactor) (n : Nat) (observer : Observer) :
    (reactor.enrolled n observer).pollSet = reactor.pollSet := by
  unfold enrolled enlisted
  split
  · rfl
  · split <;> rfl

theorem pollSet_delisted (reactor : SocketReactor) (n : Nat) (observer : Observer) (id : Nat) :
    (reactor.delisted n observer id).pollSet = reactor.pollSet := by
  unfold delisted
  split <;> rfl

theorem pollSet_arrived (reactor : SocketReactor) (sockfd : Int) :
    (reactor.arrived sockfd).2.pollSet = reactor.pollSet := by
  unfold arrived
  split <;> rfl

theorem removal_of_run (unlocked : reactor.Unlocked) {socket : SocketRef}
    {observer : Observer} {n id : Nat}
    (listed : reactor.listing socket observer = some (n, id)) :
    let call := Call.remove socket observer
    (reactor.LocksOut call ∧ ∃ next, call.run.run reactor = .error .deadlock next) ∨
    (¬ reactor.LocksOut call ∧ ∃ next ok, Comes call.run reactor next ok ∧
      Effect reactor call next ok) := by
  intro call
  have unique : ∀ m other, reactor.listing socket observer = some (m, other) →
      n = m ∧ id = other := by
    intro m other found
    cases listed.symm.trans found
    exact ⟨rfl, rfl⟩
  by_cases last : (reactor.notifiers n).observers.length = 1
  · refine .inr ⟨?_, _, false, ⟨_, run_removeEventHandler_last unlocked listed last⟩,
      .last socket observer n id _ listed last rfl⟩
    rintro ⟨m, other, found, _, more⟩
    obtain ⟨rfl, rfl⟩ := unique m other found
    exact more last
  · by_cases free : (reactor.cells id).mutex.Lockable
    · have same := pollSet_delisted reactor n observer id
      obtain ⟨pollSet, ok, mutex, comes⟩ := comes_of_settles (socket.sockfd > 0)
        (PollSet.settles_update (reactor.delisted n observer id).pollSet socket
          ((reactor.delisted n observer id).interest n))
      have ran := run_removeEventHandler_more unlocked listed last free
      refine .inr ⟨?_, _, ok, ?_, .more socket observer n id pollSet ok listed last
        (mutex.trans (by rw [same]))⟩
      · rintro ⟨m, other, found, held, _⟩
        obtain ⟨rfl, rfl⟩ := unique m other found
        exact held free
      · cases ok with
        | true => exact ran.trans comes
        | false =>
            obtain ⟨what, thrown⟩ := comes
            exact ⟨what, ran.trans thrown⟩
    · exact .inl ⟨⟨n, id, listed, free, last⟩,
        run_removeEventHandler_deadlock unlocked listed last free⟩

/-- A call locks itself out, or it comes to one of its ends. -/
theorem effect_of_run (unlocked : reactor.Unlocked) (call : Call) :
    (reactor.LocksOut call ∧ ∃ next, call.run.run reactor = .error .deadlock next) ∨
    (¬ reactor.LocksOut call ∧ ∃ next ok, Comes call.run reactor next ok ∧
      Effect reactor call next ok) := by
  cases call with
  | add socket observer =>
      refine .inr ⟨id, ?_⟩
      let n := (reactor.arrived socket.sockfd).1
      let next := (reactor.arrived socket.sockfd).2.enrolled n observer
      have same : next.pollSet = reactor.pollSet := by
        rw [pollSet_enrolled, pollSet_arrived]
      have free : next.pollSet.mutex.Lockable := by
        rw [same]
        exact unlocked.pollSet
      obtain ⟨pollSet, ok, mutex, comes⟩ := comes_of_settles (next.interest n ≠ 0)
        (PollSet.settles_add free socket (next.interest n))
      refine ⟨_, ok, ?_, .added socket observer pollSet ok (mutex.trans (by rw [same]))⟩
      have ran := run_addEventHandler unlocked socket observer
      cases ok with
      | true => exact ran.trans comes
      | false =>
          obtain ⟨what, thrown⟩ := comes
          exact ⟨what, ran.trans thrown⟩
  | remove socket observer =>
      cases listed : reactor.listing socket observer with
      | none =>
          refine .inr ⟨?_, reactor, true, run_removeEventHandler_unlisted unlocked listed,
            .unlisted socket observer listed⟩
          rintro ⟨n, id, found, _⟩
          rw [listed] at found
          contradiction
      | some found =>
          obtain ⟨n, id⟩ := found
          exact removal_of_run unlocked listed

end SocketReactor

end TestReactor
