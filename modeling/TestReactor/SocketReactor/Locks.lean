import TestReactor.SocketReactor.Dispatch
import TestReactor.SocketReactor.Effect

namespace TestReactor

namespace SocketReactor

/-! Which mutexes are held when a call begins: none but that of the observer whose
callback makes the call. -/

variable {reactor next : SocketReactor} {recursive : Bool} {held : Option Nat}

structure Idle (recursive : Bool) (held : Option Nat) (reactor : SocketReactor) : Prop where
  kind : reactor.recursive = recursive
  mutex : reactor.mutex = .free recursive
  pollSet : reactor.pollSet.mutex = .free recursive
  notifier : ∀ n, (reactor.notifiers n).mutex = .free recursive
  centre : ∀ n, (reactor.notifiers n).centreMutex = .free recursive
  cell : ∀ id, (reactor.cells id).mutex =
    if held = some id then (Mutex.free recursive).enter else .free recursive
  made : ∀ id, held = some id → id < reactor.cellCount

theorem lockable_free (recursive : Bool) : (Mutex.free recursive).Lockable := .inr rfl

theorem Idle.unlocked (idle : reactor.Idle recursive held) : reactor.Unlocked where
  mutex := idle.mutex ▸ lockable_free recursive
  pollSet := idle.pollSet ▸ lockable_free recursive
  notifier n := idle.notifier n ▸ lockable_free recursive
  centre n := idle.centre n ▸ lockable_free recursive

theorem Idle.free_cell (idle : reactor.Idle recursive none) (id : Nat) :
    (reactor.cells id).mutex.Lockable := by
  rw [idle.cell, if_neg (Option.some_ne_none id ∘ Eq.symm)]
  exact lockable_free recursive

theorem Idle.putNotifier (idle : reactor.Idle recursive held) (n : Nat) (notifier : Notifier)
    (own : notifier.mutex = .free recursive) (centre : notifier.centreMutex = .free recursive) :
    (reactor.putNotifier n notifier).Idle recursive held where
  kind := idle.kind
  mutex := idle.mutex
  pollSet := idle.pollSet
  notifier := by
    intro other
    by_cases same : other = n
    · simpa [SocketReactor.putNotifier, same] using own
    · simpa [SocketReactor.putNotifier, same] using idle.notifier other
  centre := by
    intro other
    by_cases same : other = n
    · simpa [SocketReactor.putNotifier, same] using centre
    · simpa [SocketReactor.putNotifier, same] using idle.centre other
  cell := idle.cell
  made := idle.made

theorem Idle.withEvents (idle : reactor.Idle recursive held) (n : Nat)
    (change : List (Option SocketNotification) → List (Option SocketNotification)) :
    (reactor.withEvents n change).Idle recursive held :=
  idle.putNotifier n _ (idle.notifier n) (idle.centre n)

theorem Idle.cloned (idle : reactor.Idle recursive held) (n : Nat) (observer : Observer) :
    (reactor.cloned n observer).Idle recursive held := by
  have kept := idle.putNotifier n
    { reactor.notifiers n with
      observers := (reactor.notifiers n).observers ++ [reactor.cellCount] }
    (idle.notifier n) (idle.centre n)
  refine ⟨kept.kind, kept.mutex, kept.pollSet, kept.notifier, kept.centre, ?_, ?_⟩
  · intro id
    by_cases new : id = reactor.cellCount
    · have unheld : held ≠ some id := by
        intro holds
        have made := idle.made id holds
        omega
      simp [SocketReactor.cloned, SocketReactor.putNotifier, SocketReactor.putCell, new,
        Cell.new, idle.kind, new ▸ unheld]
    · simpa [SocketReactor.cloned, SocketReactor.putNotifier, SocketReactor.putCell, new]
        using idle.cell id
  · intro id holds
    exact Nat.lt_succ_of_lt (idle.made id holds)

theorem Idle.silenced (idle : reactor.Idle recursive held) (id : Nat) :
    (reactor.silenced id).Idle recursive held where
  kind := idle.kind
  mutex := idle.mutex
  pollSet := idle.pollSet
  notifier := idle.notifier
  centre := idle.centre
  cell := by
    intro other
    by_cases same : other = id
    · simpa [SocketReactor.silenced, SocketReactor.putCell, same] using idle.cell id
    · simpa [SocketReactor.silenced, SocketReactor.putCell, same] using idle.cell other
  made := idle.made

theorem Idle.unlisted (idle : reactor.Idle recursive held) (n id : Nat) :
    (reactor.unlisted n id).Idle recursive held :=
  idle.putNotifier n _ (idle.notifier n) (idle.centre n)

theorem Idle.created (idle : reactor.Idle recursive held) (sockfd : Int) :
    (reactor.created sockfd).Idle recursive held := by
  have kept := idle.putNotifier reactor.notifierCount
    (.new sockfd reactor.recursive) (by simp [Notifier.new, idle.kind])
    (by simp [Notifier.new, idle.kind])
  exact ⟨kept.kind, kept.mutex, kept.pollSet, kept.notifier, kept.centre, kept.cell, kept.made⟩

theorem Idle.enlisted (idle : reactor.Idle recursive held) (n : Nat) (observer : Observer) :
    (reactor.enlisted n observer).Idle recursive held := by
  unfold SocketReactor.enlisted
  split
  · exact (idle.cloned n observer).withEvents n _
  · exact idle.cloned n observer

theorem Idle.enrolled (idle : reactor.Idle recursive held) (n : Nat) (observer : Observer) :
    (reactor.enrolled n observer).Idle recursive held := by
  unfold SocketReactor.enrolled
  split
  · exact idle
  · exact idle.enlisted n observer

theorem Idle.delisted (idle : reactor.Idle recursive held) (n : Nat) (observer : Observer)
    (id : Nat) : (reactor.delisted n observer id).Idle recursive held := by
  unfold SocketReactor.delisted
  split
  · exact ((idle.silenced id).unlisted n id).withEvents n _
  · exact (idle.silenced id).unlisted n id

theorem Idle.arrived (idle : reactor.Idle recursive held) (sockfd : Int) :
    (reactor.arrived sockfd).2.Idle recursive held := by
  unfold SocketReactor.arrived
  split
  · exact idle
  · exact idle.created sockfd

theorem Idle.withPollSet (idle : reactor.Idle recursive held) {pollSet : PollSet}
    (same : pollSet.mutex = reactor.pollSet.mutex) :
    (reactor.withPollSet pollSet).Idle recursive held :=
  ⟨idle.kind, idle.mutex, same.trans idle.pollSet, idle.notifier, idle.centre, idle.cell,
    idle.made⟩

theorem Idle.forgotten (idle : reactor.Idle recursive held) (socket : SocketRef)
    {pollSet : PollSet} (same : pollSet.mutex = reactor.pollSet.mutex) :
    (reactor.forgotten socket pollSet).Idle recursive held :=
  ⟨idle.kind, idle.mutex, same.trans idle.pollSet, idle.notifier, idle.centre, idle.cell,
    idle.made⟩

/-! The mutex of an observer that is called back. -/

theorem Idle.entered {id : Nat} (idle : reactor.Idle recursive none)
    (allocated : id < reactor.cellCount) :
    ((observerMutex id).set
      ((observerMutex id).get reactor).enter reactor).Idle recursive (some id) where
  kind := idle.kind
  mutex := idle.mutex
  pollSet := idle.pollSet
  notifier := idle.notifier
  centre := idle.centre
  cell := by
    intro other
    have free := idle.cell other
    by_cases same : id = other
    · simpa [observerMutex, SocketReactor.putCell, same] using congrArg Mutex.enter free
    · have different : other ≠ id := fun again => same again.symm
      simpa [observerMutex, SocketReactor.putCell, same, different] using free
  made := by
    rintro other ⟨rfl⟩
    exact allocated

theorem Idle.left {id : Nat}
    (idle : reactor.Idle recursive (some id)) :
    ((observerMutex id).set
      ((observerMutex id).get reactor).leave reactor).Idle recursive none where
  kind := idle.kind
  mutex := idle.mutex
  pollSet := idle.pollSet
  notifier := idle.notifier
  centre := idle.centre
  cell := by
    intro other
    have locked := idle.cell other
    by_cases same : id = other
    · simp only [same, if_true] at locked
      simp [observerMutex, SocketReactor.putCell, same, locked]
    · have different : other ≠ id := fun again => same again.symm
      simpa [observerMutex, SocketReactor.putCell, same, different] using locked
  made := by
    intro other impossible
    contradiction

theorem Idle.effect (idle : reactor.Idle recursive held) {call : Call} {ok : Bool}
    (effect : Effect reactor call next ok) : next.Idle recursive held := by
  cases effect with
  | added socket observer pollSet ok mutex =>
      refine ((idle.arrived socket.sockfd).enrolled _ observer).withPollSet ?_
      rw [mutex, pollSet_enrolled, pollSet_arrived]
  | unlisted socket observer absent => exact idle
  | last socket observer n id pollSet listed last mutex => exact idle.forgotten socket mutex
  | more socket observer n id pollSet ok listed more mutex =>
      refine (idle.delisted n observer id).withPollSet ?_
      rw [mutex, pollSet_delisted]

theorem idle_empty (recursive : Bool) (owns : SocketNotification → Bool)
    (refusal : Nat → CtlOp → Bool → Option Nat) :
    (SocketReactor.empty recursive owns refusal).Idle recursive none where
  kind := rfl
  mutex := rfl
  pollSet := rfl
  notifier _ := rfl
  centre _ := rfl
  cell _ := rfl
  made _ impossible := by contradiction

end SocketReactor

end TestReactor
