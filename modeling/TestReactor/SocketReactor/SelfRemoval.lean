import TestReactor.SocketReactor.Walk

namespace TestReactor

namespace SocketReactor

/-! A session on the `std::mutex`es that the source uses: which calls wait for a mutex
that their own chain holds. -/

/-- The callback of the observer in the cell `within` asks for a removal, and what the
reactor finds is that observer, among others. -/
def RemovesItself (reactor : SocketReactor) (within : Option Nat) : Call → Prop
  | .add _ _ => False
  | .remove socket observer =>
      ∃ n id, reactor.listing socket observer = some (n, id) ∧ within = some id ∧
        (reactor.notifiers n).observers.length ≠ 1

variable {reactor : SocketReactor} {held : Option Nat}

theorem Idle.locksOut_iff (idle : reactor.Idle false held) (call : Call) :
    reactor.LocksOut call ↔ reactor.RemovesItself held call := by
  have locked : ∀ id, ¬ (reactor.cells id).mutex.Lockable ↔ held = some id := by
    intro id
    rw [idle.cell id]
    split
    case isTrue same => simp [same, Mutex.free, Mutex.enter, Mutex.Lockable]
    case isFalse different => simp [different, Mutex.free, Mutex.Lockable]
  cases call with
  | add socket observer => exact Iff.rfl
  | remove socket observer => simp only [LocksOut, RemovesItself, locked]

namespace Session

/-- No call of the log is that of an observer which removes itself. -/
def NoSelfRemoval (log : List Event) : Prop :=
  ∀ call within before, Event.calling call within before ∈ log →
    ¬ before.RemovesItself within call

theorem noSelfRemoval_append {log tail : List Event} :
    NoSelfRemoval (log ++ tail) ↔ NoSelfRemoval log ∧ NoSelfRemoval tail := by
  simp only [NoSelfRemoval, List.mem_append]
  constructor
  · intro none
    exact ⟨fun call within before member => none call within before (.inl member),
      fun call within before member => none call within before (.inr member)⟩
  · rintro ⟨first, second⟩ call within before (member | member)
    · exact first call within before member
    · exact second call within before member

def EndsLocked (stop : Stop) (log : List Event) : Prop :=
  if stop = .deadlock then ¬ NoSelfRemoval log else NoSelfRemoval log

theorem discipline_noSelfRemoval :
    Discipline false (fun log _ => NoSelfRemoval log) EndsLocked where
  locked none := none
  call := by
    intro log reactor next held call ok idle _ none free _
    refine noSelfRemoval_append.mpr ⟨none, ?_⟩
    intro other within before member
    have same : Event.calling other within before = .calling call held reactor := by
      cases ok <;> simpa using member
    cases same
    rwa [← idle.locksOut_iff]
  stuck := by
    intro log reactor held call idle _ stuck
    rw [EndsLocked, if_pos rfl]
    intro none
    exact none call held reactor (by simp) ((idle.locksOut_iff call).mp stuck)
  invoked := by
    intro log reactor n id notification _ none _ _ _
    refine noSelfRemoval_append.mpr ⟨none, ?_⟩
    intro call within before member
    simp at member
  polled _ none := none
  crashed := by
    intro log reactor stop none other
    rwa [EndsLocked, if_neg other]

/-- The session never waits for a mutex that its own chain of calls holds. -/
def NeverLocksItselfOut (actions : List Action) (session : Session) : Prop :=
  ∀ last, (run actions).run session ≠ .error .deadlock last

theorem neverLocksItselfOut_iff (owns : SocketNotification → Bool)
    (refusal : Nat → CtlOp → Bool → Option Nat) (behaviour : Nat → Behaviour)
    (actions : List Action) :
    let session := start (empty false owns refusal) behaviour
    NeverLocksItselfOut actions session ↔ NoSelfRemoval (after actions session).log := by
  intro session
  have fresh : NoSelfRemoval [] := by
    intro call within before member
    contradiction
  have walked := ends_run discipline_noSelfRemoval owns refusal fresh behaviour actions
  unfold Exec.ends at walked
  unfold NeverLocksItselfOut after
  cases ran : (run actions).run session with
  | ok value last =>
      rw [show (run actions).run (start (empty false owns refusal) behaviour) = _ from ran]
        at walked
      simp [walked]
  | error stop last =>
      rw [show (run actions).run (start (empty false owns refusal) behaviour) = _ from ran]
        at walked
      cases stop with
      | deadlock => simpa [EndsLocked] using walked
      | throw what => simpa using walked
      | blocked | fault | abort => simpa [EndsLocked] using walked

/-! The peer of an `EchoServiceHandler` closes its connection, so that the handler
deletes itself in the callback of its readable observer. -/

def accepted : SocketRef := ⟨100, 3⟩

/-- What the constructor registers, and then the end of the input. -/
def hangUp : List Action :=
  [.call (.add accepted (.onSocket 0 .readable 0)),
    .call (.add accepted (.onSocket 0 .shutdown 2)),
    .turn [.ok [⟨Epoll.EPOLLIN, accepted.address⟩]]]

/-- What the destructor unregisters. -/
def deletesItself (_ : Nat) : Behaviour where
  calls := [.remove accepted (.onSocket 0 .readable 0), .remove accepted (.onSocket 0 .writable 1),
    .remove accepted (.onSocket 0 .shutdown 2)]
  throws := false

def deadlocked : EStateM.Result Stop Session Unit → Bool
  | .error .deadlock _ => true
  | _ => false

theorem not_neverLocksItselfOut {actions : List Action} {session : Session}
    (dead : deadlocked ((run actions).run session) = true) :
    ¬ NeverLocksItselfOut actions session := by
  intro never
  cases ran : (run actions).run session with
  | ok value last =>
      rw [ran] at dead
      contradiction
  | error stop last =>
      rw [ran] at dead
      cases stop with
      | deadlock => exact never last ran
      | throw | blocked | fault | abort => contradiction

theorem self_removal_locks_itself_out :
    ¬ NeverLocksItselfOut hangUp
      (start (empty false (fun _ => true) Epoll.strict) deletesItself) := by
  apply not_neverLocksItselfOut
  decide +kernel

end Session

end SocketReactor

end TestReactor
