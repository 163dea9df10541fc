import TestReactor.PollSet.Spec
import TestReactor.SocketReactor

namespace TestReactor

namespace SocketReactor

/-! What each call does once it has got its locks. -/

variable {reactor : SocketReactor}

/-- The mutexes that are never held while an observer is called back can be
locked. -/
structure Unlocked (reactor : SocketReactor) : Prop where
  mutex : reactor.mutex.Lockable
  pollSet : reactor.pollSet.mutex.Lockable
  notifier : ∀ n, (reactor.notifiers n).mutex.Lockable
  centre : ∀ n, (reactor.notifiers n).centreMutex.Lockable

theorem Unlocked.putNotifier (unlocked : reactor.Unlocked) (n : Nat) {notifier : Notifier}
    (own : notifier.mutex.Lockable) (centre : notifier.centreMutex.Lockable) :
    (reactor.putNotifier n notifier).Unlocked where
  mutex := unlocked.mutex
  pollSet := unlocked.pollSet
  notifier := by
    intro other
    by_cases same : other = n
    · simpa [SocketReactor.putNotifier, same] using own
    · simpa [SocketReactor.putNotifier, same] using unlocked.notifier other
  centre := by
    intro other
    by_cases same : other = n
    · simpa [SocketReactor.putNotifier, same] using centre
    · simpa [SocketReactor.putNotifier, same] using unlocked.centre other

/-! The states that the single steps of a call lead to. -/

def cloned (reactor : SocketReactor) (n : Nat) (observer : Observer) : SocketReactor :=
  { (reactor.putCell reactor.cellCount (.new observer reactor.recursive)).putNotifier n
      { reactor.notifiers n with
        observers := (reactor.notifiers n).observers ++ [reactor.cellCount] } with
    cellCount := reactor.cellCount + 1 }

def withEvents (reactor : SocketReactor) (n : Nat)
    (change : List (Option SocketNotification) → List (Option SocketNotification)) :
    SocketReactor :=
  reactor.putNotifier n
    { reactor.notifiers n with events := change (reactor.notifiers n).events }

def silenced (reactor : SocketReactor) (id : Nat) : SocketReactor :=
  reactor.putCell id
    { reactor.cells id with observer := (reactor.cells id).observer.disabled }

def unlisted (reactor : SocketReactor) (n id : Nat) : SocketReactor :=
  reactor.putNotifier n
    { reactor.notifiers n with observers := (reactor.notifiers n).observers.erase id }

def created (reactor : SocketReactor) (sockfd : Int) : SocketReactor :=
  { reactor.putNotifier reactor.notifierCount (.new sockfd reactor.recursive) with
    notifierCount := reactor.notifierCount + 1
    handlers := reactor.handlers.insert sockfd reactor.notifierCount }

def enlisted (reactor : SocketReactor) (n : Nat) (observer : Observer) : SocketReactor :=
  match SocketNotifier.eventOf reactor observer with
  | some event => (reactor.cloned n observer).withEvents n (event :: ·)
  | none => reactor.cloned n observer

def delisted (reactor : SocketReactor) (n : Nat) (observer : Observer) (id : Nat) :
    SocketReactor :=
  match SocketNotifier.eventOf reactor observer with
  | some event => ((reactor.silenced id).unlisted n id).withEvents n (·.erase event)
  | none => (reactor.silenced id).unlisted n id

def interest (reactor : SocketReactor) (n : Nat) : PollSet.Mode :=
  let accepted := fun notification mode =>
    if (reactor.notifiers n).events.contains (reactor.pointer notification) then mode else 0
  accepted .readable PollSet.POLL_READ ||| accepted .writable PollSet.POLL_WRITE |||
    accepted .error PollSet.POLL_ERROR

theorem Unlocked.withObservers (unlocked : reactor.Unlocked) (n : Nat)
    (observers : List Nat) :
    (reactor.putNotifier n { reactor.notifiers n with observers := observers }).Unlocked :=
  unlocked.putNotifier n (unlocked.notifier n) (unlocked.centre n)

theorem Unlocked.withEvents (unlocked : reactor.Unlocked) (n : Nat)
    (change : List (Option SocketNotification) → List (Option SocketNotification)) :
    (reactor.withEvents n change).Unlocked :=
  unlocked.putNotifier n (unlocked.notifier n) (unlocked.centre n)

theorem Unlocked.cloned (unlocked : reactor.Unlocked) (n : Nat) (observer : Observer) :
    (reactor.cloned n observer).Unlocked := by
  have kept := unlocked.withObservers n
    ((reactor.notifiers n).observers ++ [reactor.cellCount])
  exact ⟨kept.mutex, kept.pollSet, kept.notifier, kept.centre⟩

theorem Unlocked.unlisted (unlocked : reactor.Unlocked) (n id : Nat) :
    ((reactor.silenced id).unlisted n id).Unlocked := by
  have kept := unlocked.withObservers n ((reactor.notifiers n).observers.erase id)
  exact ⟨kept.mutex, kept.pollSet, kept.notifier, kept.centre⟩

theorem Unlocked.enlisted (unlocked : reactor.Unlocked) (n : Nat) (observer : Observer) :
    (reactor.enlisted n observer).Unlocked := by
  unfold SocketReactor.enlisted
  split
  · exact (unlocked.cloned n observer).withEvents n _
  · exact unlocked.cloned n observer

theorem Unlocked.delisted (unlocked : reactor.Unlocked) (n : Nat) (observer : Observer)
    (id : Nat) : (reactor.delisted n observer id).Unlocked := by
  unfold SocketReactor.delisted
  split
  · exact (unlocked.unlisted n id).withEvents n _
  · exact unlocked.unlisted n id

theorem Unlocked.created (unlocked : reactor.Unlocked) (sockfd : Int) :
    (reactor.created sockfd).Unlocked := by
  have kept : (reactor.putNotifier reactor.notifierCount
      (.new sockfd reactor.recursive)).Unlocked :=
    unlocked.putNotifier _ (.inr rfl) (.inr rfl)
  exact ⟨kept.mutex, kept.pollSet, kept.notifier, kept.centre⟩

namespace NotificationCenter

theorem run_addObserver (n : Nat) (observer : Observer) (unlocked : reactor.Unlocked) :
    (addObserver n observer).run reactor = .ok () (reactor.cloned n observer) := by
  apply run_scopedLock_ok (centreMutex n) (unlocked.centre n)
  simp only [centreMutex, cloned, putNotifier, putCell, EStateM.run_bind, EStateM.run_get,
    EStateM.run_set, if_true]
  congr
  funext other
  grind

theorem run_hasObserver (n : Nat) (observer : Observer) (unlocked : reactor.Unlocked) :
    (hasObserver n observer).run reactor = .ok (find reactor n observer).isSome reactor := by
  apply run_scopedLock_read (centreMutex n) (unlocked.centre n)
  simp [centreMutex, find]

theorem run_countObservers (n : Nat) (unlocked : reactor.Unlocked) :
    (countObservers n).run reactor =
      .ok (reactor.notifiers n).observers.length reactor := by
  apply run_scopedLock_read (centreMutex n) (unlocked.centre n)
  simp [centreMutex]

theorem run_observersToNotify (n : Nat) (unlocked : reactor.Unlocked) :
    (observersToNotify n).run reactor = .ok (reactor.notifiers n).observers reactor := by
  apply run_scopedLock_read (centreMutex n) (unlocked.centre n)
  simp [centreMutex]

theorem run_disable (reactor : SocketReactor) {id : Nat}
    (free : (reactor.cells id).mutex.Lockable) :
    (disable id).run reactor = .ok () (reactor.silenced id) := by
  apply run_scopedLock_ok (observerMutex id) free
  simp [observerMutex, silenced, putCell_putCell]

theorem run_disable_deadlock (reactor : SocketReactor) {id : Nat}
    (held : ¬ (reactor.cells id).mutex.Lockable) :
    (disable id).run reactor = .error .deadlock reactor :=
  run_scopedLock_of_not_lockable (observerMutex id) _ held

variable {n id : Nat} {observer : Observer}

theorem find_entered (mutex : Mutex) :
    find ((centreMutex n).set mutex reactor) n observer = find reactor n observer := by
  simp only [find, centreMutex, notifiers_putNotifier_self]
  rfl

theorem run_removeObserver_none (unlocked : reactor.Unlocked)
    (absent : find reactor n observer = none) :
    (removeObserver n observer).run reactor = .ok () reactor := by
  apply run_scopedLock_read (centreMutex n) (unlocked.centre n)
  simp only [EStateM.run_bind, EStateM.run_get, find_entered, absent, EStateM.run_pure]

theorem run_removeObserver_ok (unlocked : reactor.Unlocked)
    (found : find reactor n observer = some id) (free : (reactor.cells id).mutex.Lockable) :
    (removeObserver n observer).run reactor = .ok () ((reactor.silenced id).unlisted n id) := by
  apply run_scopedLock_ok (centreMutex n) (unlocked.centre n)
  have disabled := run_disable ((centreMutex n).set ((centreMutex n).get reactor).enter reactor)
    free
  simp only [EStateM.run_bind, EStateM.run_get, find_entered, found, disabled,
    EStateM.run_modify]
  simp [centreMutex, silenced, unlisted, putCell, putNotifier]
  funext other
  grind

theorem run_removeObserver_deadlock (unlocked : reactor.Unlocked)
    (found : find reactor n observer = some id) (held : ¬ (reactor.cells id).mutex.Lockable) :
    ∃ next, (removeObserver n observer).run reactor = .error .deadlock next := by
  have deadlocked := run_disable_deadlock
    ((centreMutex n).set ((centreMutex n).get reactor).enter reactor) held
  refine ⟨(centreMutex n).set ((centreMutex n).get reactor).enter reactor, ?_⟩
  rw [removeObserver, run_scopedLock_of_lockable (centreMutex n) _ (unlocked.centre n)]
  simp only [EStateM.run_bind, EStateM.run_get, find_entered, found, deadlocked,
    releasing_deadlock]

end NotificationCenter

namespace SocketNotifier

variable {n id : Nat} {observer : Observer}

theorem run_withEvents (unlocked : reactor.Unlocked)
    (change : Option SocketNotification → List (Option SocketNotification) →
      List (Option SocketNotification)) :
    (scopedLock (notifierMutex n) do
      match eventOf (← get) observer with
      | some event =>
          modify fun reactor =>
            let notifier := reactor.notifiers n
            reactor.putNotifier n { notifier with events := change event notifier.events }
      | none => pure ()).run reactor =
      .ok () (match eventOf reactor observer with
        | some event => reactor.withEvents n (change event)
        | none => reactor) := by
  apply run_scopedLock_ok (notifierMutex n) (unlocked.notifier n)
  have same : eventOf ((notifierMutex n).set ((notifierMutex n).get reactor).enter reactor)
      observer = eventOf reactor observer := rfl
  simp only [EStateM.run_bind, EStateM.run_get, same]
  cases eventOf reactor observer with
  | none => rfl
  | some event =>
      simp [notifierMutex, withEvents, putNotifier]
      funext other
      grind

theorem run_addObserver (n : Nat) (observer : Observer) (unlocked : reactor.Unlocked) :
    (addObserver n observer).run reactor = .ok () (reactor.enlisted n observer) := by
  rw [addObserver, EStateM.run_bind, NotificationCenter.run_addObserver n observer unlocked]
  exact run_withEvents (unlocked.cloned n observer) fun event events => event :: events

theorem run_removeObserver_ok (unlocked : reactor.Unlocked)
    (found : NotificationCenter.find reactor n observer = some id)
    (free : (reactor.cells id).mutex.Lockable) :
    (removeObserver n observer).run reactor = .ok () (reactor.delisted n observer id) := by
  rw [removeObserver, EStateM.run_bind,
    NotificationCenter.run_removeObserver_ok unlocked found free]
  exact run_withEvents (unlocked.unlisted n id) fun event events => events.erase event

theorem run_removeObserver_none (unlocked : reactor.Unlocked)
    (absent : NotificationCenter.find reactor n observer = none) :
    (removeObserver n observer).run reactor =
      .ok () (match eventOf reactor observer with
        | some event => reactor.withEvents n (·.erase event)
        | none => reactor) := by
  rw [removeObserver, EStateM.run_bind,
    NotificationCenter.run_removeObserver_none unlocked absent]
  exact run_withEvents unlocked fun event events => events.erase event

theorem run_removeObserver_deadlock (unlocked : reactor.Unlocked)
    (found : NotificationCenter.find reactor n observer = some id)
    (held : ¬ (reactor.cells id).mutex.Lockable) :
    ∃ next, (removeObserver n observer).run reactor = .error .deadlock next := by
  obtain ⟨next, deadlocked⟩ :=
    NotificationCenter.run_removeObserver_deadlock unlocked found held
  refine ⟨next, ?_⟩
  rw [removeObserver, EStateM.run_bind, deadlocked]

theorem run_accepts (n : Nat) (notification : Option SocketNotification)
    (free : (reactor.notifiers n).mutex.Lockable) :
    (accepts n notification).run reactor =
      .ok ((reactor.notifiers n).events.contains notification) reactor := by
  apply run_scopedLock_read (notifierMutex n) free
  simp [notifierMutex]

end SocketNotifier

theorem run_mode (n : Nat) (unlocked : reactor.Unlocked) :
    (mode n).run reactor = .ok (reactor.interest n) reactor := by
  simp only [mode, EStateM.run_bind, EStateM.run_get,
    SocketNotifier.run_accepts n _ (unlocked.notifier n), EStateM.run_pure]
  rfl

section

variable {sockfd : Int} {n : Nat}

theorem run_getNotifier_found (unlocked : reactor.Unlocked)
    (found : reactor.handlers[sockfd]? = some n) (makeNew : Bool) :
    (getNotifier sockfd makeNew).run reactor = .ok (some n) reactor := by
  apply run_scopedLock_read mutexField unlocked.mutex
  simp [mutexField, found]

theorem run_getNotifier_absent (unlocked : reactor.Unlocked)
    (absent : reactor.handlers[sockfd]? = none) :
    (getNotifier sockfd false).run reactor = .ok none reactor := by
  apply run_scopedLock_read mutexField unlocked.mutex
  simp [mutexField, absent]

theorem run_getNotifier_new (unlocked : reactor.Unlocked)
    (absent : reactor.handlers[sockfd]? = none) :
    (getNotifier sockfd true).run reactor =
      .ok (some reactor.notifierCount) (reactor.created sockfd) := by
  apply run_scopedLock_ok mutexField unlocked.mutex
  simp [mutexField, absent, created, putNotifier]

end

/-! `addEventHandler`. -/

def arrived (reactor : SocketReactor) (sockfd : Int) : Nat × SocketReactor :=
  match reactor.handlers[sockfd]? with
  | some n => (n, reactor)
  | none => (reactor.notifierCount, reactor.created sockfd)

def enrolled (reactor : SocketReactor) (n : Nat) (observer : Observer) : SocketReactor :=
  if (NotificationCenter.find reactor n observer).isSome then reactor
  else reactor.enlisted n observer

theorem Unlocked.arrived (unlocked : reactor.Unlocked) (sockfd : Int) :
    (reactor.arrived sockfd).2.Unlocked := by
  unfold SocketReactor.arrived
  split
  · exact unlocked
  · exact unlocked.created sockfd

theorem Unlocked.enrolled (unlocked : reactor.Unlocked) (n : Nat) (observer : Observer) :
    (reactor.enrolled n observer).Unlocked := by
  unfold SocketReactor.enrolled
  split
  · exact unlocked
  · exact unlocked.enlisted n observer

theorem run_getNotifier_true (unlocked : reactor.Unlocked) (sockfd : Int) :
    (getNotifier sockfd true).run reactor =
      .ok (some (reactor.arrived sockfd).1) (reactor.arrived sockfd).2 := by
  unfold arrived
  split
  case h_1 n found => exact run_getNotifier_found unlocked found true
  case h_2 absent => exact run_getNotifier_new unlocked absent

/-- `addEventHandler` up to its call on the poll set. -/
theorem run_addEventHandler (unlocked : reactor.Unlocked) (socket : SocketRef)
    (observer : Observer) :
    let n := (reactor.arrived socket.sockfd).1
    let next := (reactor.arrived socket.sockfd).2.enrolled n observer
    (addEventHandler socket observer).run reactor =
      (Exec.when (next.interest n ≠ 0)
        (Exec.on pollSetField (PollSet.add socket (next.interest n)))).run next := by
  intro n next
  have arrived := unlocked.arrived socket.sockfd
  have enrolled : (Exec.when (!(NotificationCenter.find (reactor.arrived socket.sockfd).2 n
      observer).isSome) (SocketNotifier.addObserver n observer)).run
        (reactor.arrived socket.sockfd).2 = .ok () next := by
    simp only [next, SocketReactor.enrolled]
    split
    case isTrue listed => simp [listed]
    case isFalse unlisted =>
      simpa [unlisted] using SocketNotifier.run_addObserver n observer arrived
  have asked : (mode (reactor.arrived socket.sockfd).1).run next = .ok (next.interest n) next :=
    run_mode n (arrived.enrolled n observer)
  simp only [addEventHandler, EStateM.run_bind, run_getNotifier_true unlocked,
    NotificationCenter.run_hasObserver _ _ arrived]
  rw [enrolled]
  simp only [asked]

/-! `removeEventHandler`. -/

/-- The notifier and the cell that a removal is about. -/
def listing (reactor : SocketReactor) (socket : SocketRef) (observer : Observer) :
    Option (Nat × Nat) :=
  match reactor.handlers[socket.sockfd]? with
  | some n => (NotificationCenter.find reactor n observer).map fun id => (n, id)
  | none => none

/-- The reactor without the handler of a socket. -/
def forgotten (reactor : SocketReactor) (socket : SocketRef) (pollSet : PollSet) :
    SocketReactor :=
  { reactor with
    handlers := reactor.handlers.erase socket.sockfd
    pollSet := pollSet }

theorem run_removeEventHandler_unlisted (unlocked : reactor.Unlocked) {socket : SocketRef}
    {observer : Observer} (unlisted : reactor.listing socket observer = none) :
    (removeEventHandler socket observer).run reactor = .ok () reactor := by
  unfold listing at unlisted
  split at unlisted
  case h_1 n found =>
    have absent : NotificationCenter.find reactor n observer = none := by
      simpa using unlisted
    simp [removeEventHandler, run_getNotifier_found unlocked found,
      NotificationCenter.run_hasObserver n observer unlocked, absent]
  case h_2 absent =>
    simp [removeEventHandler, run_getNotifier_absent unlocked absent]

section

variable {socket : SocketRef} {observer : Observer} {n id : Nat}

theorem listing_eq_some :
    reactor.listing socket observer = some (n, id) ↔
      reactor.handlers[socket.sockfd]? = some n ∧
        NotificationCenter.find reactor n observer = some id := by
  unfold listing
  split
  case h_1 m found =>
    simp only [Option.map_eq_some_iff, Prod.mk.injEq, exists_eq_right_right]
    constructor
    · rintro ⟨same, rfl⟩
      exact ⟨found, same⟩
    · rintro ⟨same, listed⟩
      cases found.symm.trans same
      exact ⟨listed, rfl⟩
  case h_2 absent =>
    constructor
    · intro impossible
      contradiction
    · rintro ⟨found, _⟩
      rw [absent] at found
      contradiction

theorem observers_delisted (reactor : SocketReactor) (n m : Nat) (observer : Observer)
    (id : Nat) :
    ((reactor.delisted n observer id).notifiers m).observers =
      if m = n then (reactor.notifiers m).observers.erase id
      else (reactor.notifiers m).observers := by
  unfold delisted
  split <;> by_cases same : m = n <;>
    simp [withEvents, unlisted, silenced, putNotifier, putCell, same]

theorem mem_of_find (found : NotificationCenter.find reactor n observer = some id) :
    id ∈ (reactor.notifiers n).observers := List.mem_of_find?_eq_some found

theorem run_erase (unlocked : reactor.Unlocked) (sockfd : Int) :
    (scopedLock mutexField (modify fun reactor => reactor.erased sockfd)).run reactor =
      .ok () (reactor.erased sockfd) :=
  run_scopedLock_ok mutexField unlocked.mutex rfl

/-- With the handler goes a copy of the socket, so epoll does not know the descriptor any
more. -/
theorem run_forget (unlocked : reactor.Unlocked) (found : socket.sockfd ∈ reactor.handlers) :
    (forget socket).run reactor =
      .error (.throw (ServerSocket.message reactor.pollSet.epoll.missing))
        (reactor.forgotten socket (reactor.pollSet.shut socket)) := by
  have removed := PollSet.run_remove_closing unlocked.pollSet socket
  rw [forget, EStateM.run_bind, run_erase unlocked socket.sockfd]
  simp only [Exec.run_on, erased, if_pos found, pollSetField, removed]
  rfl

theorem run_removeEventHandler_listed (unlocked : reactor.Unlocked)
    (listed : reactor.listing socket observer = some (n, id)) :
    (removeEventHandler socket observer).run reactor =
      (do
        Exec.when ((reactor.notifiers n).observers.length = 1) (forget socket)
        SocketNotifier.removeObserver n observer
        let count ← NotificationCenter.countObservers n
        Exec.when (count > 0 && socket.sockfd > 0) do
          let mode ← mode n
          Exec.on pollSetField (PollSet.update socket mode)).run reactor := by
  obtain ⟨found, member⟩ := listing_eq_some.mp listed
  simp only [removeEventHandler, EStateM.run_bind, run_getNotifier_found unlocked found,
    NotificationCenter.run_hasObserver n observer unlocked, member, Option.isSome_some,
    Exec.run_when_true, NotificationCenter.run_countObservers n unlocked]

theorem run_removeEventHandler_last (unlocked : reactor.Unlocked)
    (listed : reactor.listing socket observer = some (n, id))
    (last : (reactor.notifiers n).observers.length = 1) :
    (removeEventHandler socket observer).run reactor =
      .error (.throw (ServerSocket.message reactor.pollSet.epoll.missing))
        (reactor.forgotten socket (reactor.pollSet.shut socket)) := by
  have found : socket.sockfd ∈ reactor.handlers := by
    rw [Std.TreeMap.mem_iff_isSome_getElem?, (listing_eq_some.mp listed).1]
    rfl
  rw [run_removeEventHandler_listed unlocked listed]
  simp only [EStateM.run_bind, last, decide_true, Exec.run_when_true, run_forget unlocked found]

theorem run_removeEventHandler_more (unlocked : reactor.Unlocked)
    (listed : reactor.listing socket observer = some (n, id))
    (more : (reactor.notifiers n).observers.length ≠ 1)
    (free : (reactor.cells id).mutex.Lockable) :
    (removeEventHandler socket observer).run reactor =
      (Exec.when (socket.sockfd > 0) (Exec.on pollSetField (PollSet.update socket
        ((reactor.delisted n observer id).interest n)))).run
        (reactor.delisted n observer id) := by
  obtain ⟨found, member⟩ := listing_eq_some.mp listed
  have kept := unlocked.delisted n observer id
  have removed := SocketNotifier.run_removeObserver_ok unlocked member free
  have counted := NotificationCenter.run_countObservers n kept
  have some_left : 0 < ((reactor.notifiers n).observers.erase id).length := by
    have positive := List.length_pos_of_mem (mem_of_find member)
    rw [List.length_erase_of_mem (mem_of_find member)]
    omega
  rw [run_removeEventHandler_listed unlocked listed]
  simp only [EStateM.run_bind, more, decide_false, Exec.run_when_false, removed, counted,
    observers_delisted, if_true, gt_iff_lt, some_left, decide_true, Bool.true_and]
  cases decide (0 < socket.sockfd) with
  | true =>
      simp only [Exec.run_when_true, EStateM.run_bind, run_mode n kept]
  | false => rfl

theorem run_removeEventHandler_deadlock (unlocked : reactor.Unlocked)
    (listed : reactor.listing socket observer = some (n, id))
    (more : (reactor.notifiers n).observers.length ≠ 1)
    (held : ¬ (reactor.cells id).mutex.Lockable) :
    ∃ next, (removeEventHandler socket observer).run reactor = .error .deadlock next := by
  obtain ⟨found, member⟩ := listing_eq_some.mp listed
  obtain ⟨next, deadlocked⟩ := SocketNotifier.run_removeObserver_deadlock unlocked member held
  refine ⟨next, ?_⟩
  rw [run_removeEventHandler_listed unlocked listed]
  simp only [EStateM.run_bind, more, decide_false, Exec.run_when_false, deadlocked]

end

end SocketReactor

end TestReactor
