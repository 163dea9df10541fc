import TestReactor.SocketReactor.Ready
import TestReactor.SocketReactor.View
import TestReactor.SocketReactor.Walk
import TestReactor.Tracks

namespace TestReactor

namespace SocketReactor

/-! One turn of the loop, with a record of what it dispatches. -/

/-- A ready bit at its turn, with the handler that the reactor has for its socket then. -/
structure Due where
  sockfd : Int
  notification : SocketNotification
  handler : Option Nat
  deriving DecidableEq, Repr

/-- A ready bit has its turn; a broadcast begins, with the notifiers of all handlers; a
notification goes to a notifier. -/
inductive Record where
  | due (due : Due)
  | broadcast (notification : SocketNotification) (registered : List Nat)
  | dispatched (n : Nat) (pointer : Option SocketNotification)
  deriving DecidableEq, Repr

structure Recorded where
  session : Session
  records : List Record

namespace Recorded

abbrev Method (α : Type) := Exec Recorded α

def sessionField : Field Recorded Session where
  get := session
  set session recorded := { recorded with session := session }
  get_set _ _ := rfl
  set_get _ := rfl
  set_set _ _ _ := rfl

def onSession (body : Session.Method α) : Method α := Exec.on sessionField body

def reactorField : Field Recorded SocketReactor := sessionField.part Session.reactorField

def noted (recorded : Recorded) (record : Record) : Recorded :=
  { recorded with records := recorded.records ++ [record] }

def note (record : Session → Record) : Method Unit :=
  modify fun recorded => recorded.noted (record recorded.session)

def registered (reactor : SocketReactor) : List Nat := reactor.handlers.toList.map Prod.snd

/-- `SocketNotifier::dispatch`, with a record of it. -/
def dispatch (n : Nat) (pointer : Option SocketNotification) : Method Unit := do
  note fun _ => .dispatched n pointer
  onSession (Session.dispatch n pointer)

def dispatcher : Dispatcher Recorded where
  reactor := reactorField
  dispatch := dispatch
  note
    | .due sockfd notification =>
        note fun session => .due ⟨sockfd, notification, session.reactor.handlers[sockfd]?⟩
    | .broadcast notification =>
        note fun session => .broadcast notification (registered session.reactor)

def turn (answers : List (Except Nat (List (Epoll.Event Nat)))) : Method Unit :=
  dispatcher.turn answers

def onShutdown : Method Unit := dispatcher.onShutdown

/-- The record is kept beside the session: it changes nothing in it. -/
theorem covers_session : Dispatcher.Covers session dispatcher Session.dispatcher where
  reads _ := rfl
  writes _ _ := rfl
  dispatch n pointer := fun state =>
    Exec.tracks_on sessionField (Session.dispatch n pointer) (state.noted (.dispatched n pointer))
  note moment := by
    cases moment <;> exact fun _ => rfl

end Recorded

def Owned (reactor : SocketReactor) : Prop := ∀ notification, reactor.owns notification = true

section

variable {reactor next : SocketReactor}

theorem Owned.effect (owned : reactor.Owned) {call : Call} {ok : Bool}
    (effect : Effect reactor call next ok) : next.Owned := by
  have same : next.owns = reactor.owns := by
    cases effect with
    | added socket observer pollSet ok mutex =>
        exact (owns_enrolled _ _ observer).trans (owns_arrived reactor socket.sockfd)
    | unlisted socket observer absent => rfl
    | last socket observer n id pollSet listed last mutex => rfl
    | more socket observer n id pollSet ok listed more mutex => exact owns_delisted _ n observer id
  intro notification
  rw [same, owned]

theorem Owned.pointer (owned : reactor.Owned) (notification : SocketNotification) :
    reactor.pointer notification = some notification := if_pos (owned notification)

end

namespace Session

variable {session : Session}

/-- On re-entrant mutexes and with its notifications, nothing stops a session for good. -/
theorem conduct_owned : Conduct true (fun _ reactor => reactor.Owned) (fun _ _ => False) where
  locked owned := owned
  call _ _ owned _ effect := owned.effect effect
  stuck := by
    intro log reactor held call idle _ stuck
    cases call with
    | add socket observer => exact stuck
    | remove socket observer =>
        obtain ⟨_, id, _, held, _⟩ := stuck
        exact held (idle.recursive_cell id)
  invoked _ _ owned _ _ _ := owned
  polled _ owned := owned

def steady : Guarantee Session := guarantee true (fun _ reactor => reactor.Owned) (fun _ _ => False)
  none

theorem run_dispatchNotifier (holds : steady.holds session) {n : Nat}
    (made : n < session.reactor.notifierCount) (notification : SocketNotification) :
    ∃ next, (dispatcher.dispatchNotifier (some notification) n).run session = .ok () next ∧
      steady.holds next ∧ steady.leads session next := by
  have dispatched : steady.Ensures (dispatch n (some notification)) session :=
    Guarantee.ensures_bind_ok rfl (ensures_postNotification conduct_owned holds made notification)
  unfold Guarantee.Ensures Exec.ends at dispatched
  rw [Dispatcher.dispatchNotifier, Exec.run_catching, dispatcher]
  cases ran : (dispatch n (some notification)).run session with
  | ok value next =>
      rw [ran] at dispatched
      exact ⟨next, rfl, dispatched⟩
  | error stop next =>
      rw [ran] at dispatched
      cases stop with
      | throw what => exact ⟨next, rfl, dispatched⟩
      | blocked | deadlock | fault | abort => exact dispatched.elim

end Session

namespace Recorded

open Session (steady)

variable {recorded : Recorded}

theorem run_due (sockfd : Int) (notification : SocketNotification) :
    (dispatcher.note (.due sockfd notification)).run recorded = .ok () (recorded.noted
      (.due ⟨sockfd, notification, recorded.session.reactor.handlers[sockfd]?⟩)) := rfl

theorem run_broadcasting (notification : SocketNotification) :
    (dispatcher.note (.broadcast notification)).run recorded = .ok () (recorded.noted
      (.broadcast notification (registered recorded.session.reactor))) := rfl

theorem run_dispatchNotifier (holds : steady.holds recorded.session) {n : Nat}
    (made : n < recorded.session.reactor.notifierCount) (notification : SocketNotification) :
    ∃ next, (dispatcher.dispatchNotifier (some notification) n).run recorded = .ok () next ∧
      next.records = recorded.records ++ [.dispatched n (some notification)] ∧
      steady.holds next.session ∧ steady.leads recorded.session next.session := by
  obtain ⟨session, ran, kept, leads⟩ := Session.run_dispatchNotifier holds made notification
  refine ⟨⟨session, recorded.records ++ [.dispatched n (some notification)]⟩, ?_, rfl, kept, leads⟩
  have inner : (Exec.catching (Session.dispatch n (some notification)) fun _ => pure ()).run
      recorded.session = .ok () session := ran
  let noted := recorded.noted (.dispatched n (some notification))
  rw [Exec.run_catching] at inner
  rw [Dispatcher.dispatchNotifier, Exec.run_catching]
  cases came : (Session.dispatch n (some notification)).run recorded.session with
  | ok value next =>
      have dispatched : (dispatcher.dispatch n (some notification)).run recorded =
          .ok value ⟨next, noted.records⟩ :=
        @Exec.run_on_ok _ _ _ sessionField _ noted _ _ came
      rw [came] at inner
      cases inner
      rw [dispatched]
      rfl
  | error stop next =>
      have dispatched : (dispatcher.dispatch n (some notification)).run recorded =
          .error stop ⟨next, noted.records⟩ :=
        @Exec.run_on_error _ _ _ sessionField _ noted _ _ came
      rw [came] at inner
      rw [dispatched]
      cases stop with
      | throw what =>
          cases inner
          rfl
      | blocked | deadlock | fault | abort => contradiction

abbrev Bit := Int × SocketNotification

def Due.bit (due : Due) : Bit := (due.sockfd, due.notification)

def attendance (due : Due) : List Record :=
  .due due ::
    match due.handler with
    | some n => [.dispatched n (some due.notification)]
    | none => []

/-- A part of a turn that serves some ready bits, and comes back whatever the callbacks do. -/
def Serves (expected : List Bit) (body : Method Unit) : Prop :=
  ∀ recorded : Recorded, steady.holds recorded.session →
    ∃ next, ∃ dues : List Due, body.run recorded = .ok () next ∧ dues.map Due.bit = expected ∧
      next.records = recorded.records ++ dues.flatMap attendance ∧ steady.holds next.session

theorem serves_pure : Serves [] (pure ()) :=
  fun recorded holds => ⟨recorded, [], rfl, rfl, (List.append_nil _).symm, holds⟩

theorem Serves.bind {first second : List Bit} {body rest : Method Unit}
    (serves : Serves first body) (then_ : Serves second rest) :
    Serves (first ++ second) (body >>= fun _ => rest) := by
  intro recorded holds
  obtain ⟨middle, dues, ran, served, records, kept⟩ := serves recorded holds
  obtain ⟨next, others, ran', served', records', kept'⟩ := then_ middle kept
  refine ⟨next, dues ++ others, ?_, ?_, ?_, kept'⟩
  · rw [EStateM.run_bind, ran]
    exact ran'
  · rw [List.map_append, served, served']
  · rw [records', records, List.flatMap_append, List.append_assoc]

theorem Serves.when {expected : List Bit} {body : Method Unit} (serves : Serves expected body)
    (condition : Bool) :
    Serves (if condition then expected else []) (Exec.when condition body) := by
  cases condition with
  | true => exact serves
  | false => exact serves_pure

theorem serves_forEach {expected : ι → List Bit} {body : ι → Method Unit}
    (serves : ∀ item, Serves (expected item) (body item)) (items : List ι) :
    Serves (items.flatMap expected) (Exec.forEach items body) := by
  induction items with
  | nil => exact serves_pure
  | cons item rest ih =>
      rw [List.flatMap_cons]
      exact (serves item).bind ih

theorem serves_dispatchSocket (sockfd : Int) (notification : SocketNotification) :
    Serves [(sockfd, notification)] (dispatcher.dispatchSocket sockfd notification) := by
  intro recorded holds
  have unlocked := holds.1.unlocked
  cases found : recorded.session.reactor.handlers[sockfd]? with
  | none =>
      let noted := recorded.noted (.due ⟨sockfd, notification, none⟩)
      have got : (dispatcher.onReactor (getNotifier sockfd false)).run noted = .ok none noted :=
        Dispatcher.run_onReactor (run_getNotifier_absent unlocked found)
      refine ⟨noted, [⟨sockfd, notification, none⟩], ?_, rfl, rfl, holds⟩
      rw [Dispatcher.dispatchSocket, EStateM.run_bind, run_due, found]
      simp only [EStateM.run_bind, noted, got, EStateM.run_pure]
  | some n =>
      let noted := recorded.noted (.due ⟨sockfd, notification, some n⟩)
      have got : (dispatcher.onReactor (getNotifier sockfd false)).run noted = .ok (some n) noted :=
        Dispatcher.run_onReactor (run_getNotifier_found unlocked found false)
      have pointer : (dispatcher.reactor.get noted).pointer notification = some notification :=
        holds.2.2.pointer notification
      have held : steady.holds noted.session := holds
      obtain ⟨next, ran, records, kept, _⟩ :=
        run_dispatchNotifier held (holds.2.1.keyed sockfd n found).1 notification
      refine ⟨next, [⟨sockfd, notification, some n⟩], ?_, rfl, ?_, kept⟩
      · rw [Dispatcher.dispatchSocket, EStateM.run_bind, run_due, found]
        simp only [EStateM.run_bind, noted, got, EStateM.run_get, pointer, ran]
      · exact records.trans (List.append_assoc recorded.records _ _)

def bits (ready : Int × PollSet.Mode) : List Bit :=
  (if Session.isReady ready.2 PollSet.POLL_READ then [(ready.1, .readable)] else []) ++
    ((if Session.isReady ready.2 PollSet.POLL_WRITE then [(ready.1, .writable)] else []) ++
      if Session.isReady ready.2 PollSet.POLL_ERROR then [(ready.1, .error)] else [])

theorem serves_serve (ready : Int × PollSet.Mode) : Serves (bits ready) (dispatcher.serve ready) :=
  ((serves_dispatchSocket ready.1 .readable).when _).bind
    (((serves_dispatchSocket ready.1 .writable).when _).bind
      ((serves_dispatchSocket ready.1 .error).when _))

theorem run_delegates (holds : steady.holds recorded.session) (delegates : List Nat)
    (made : ∀ n ∈ delegates, n < recorded.session.reactor.notifierCount)
    (notification : SocketNotification) :
    ∃ next,
      (Exec.forEach delegates (dispatcher.dispatchNotifier (some notification))).run recorded =
        .ok () next ∧
      next.records = recorded.records ++ delegates.map (.dispatched · (some notification)) := by
  induction delegates generalizing recorded with
  | nil => exact ⟨recorded, rfl, (List.append_nil _).symm⟩
  | cons n rest ih =>
      rw [List.forall_mem_cons] at made
      obtain ⟨middle, ran, records, kept, leads⟩ := run_dispatchNotifier holds made.1 notification
      obtain ⟨next, ran', records'⟩ := ih kept fun m member =>
        (Grows.notifiers leads m (made.2 m member)).1
      refine ⟨next, ?_, ?_⟩
      · rw [Exec.forEach, EStateM.run_bind, ran]
        exact ran'
      · rw [records', records, List.append_assoc]
        rfl

def broadcastRecords (notification : SocketNotification) (registered : List Nat) :
    List Record :=
  .broadcast notification registered :: registered.map (.dispatched · (some notification))

theorem run_dispatchAll (holds : steady.holds recorded.session)
    (notification : SocketNotification) :
    ∃ next, (dispatcher.dispatchAll notification).run recorded = .ok () next ∧
      next.records = recorded.records ++
        broadcastRecords notification (registered recorded.session.reactor) := by
  let noted := recorded.noted (.broadcast notification (registered recorded.session.reactor))
  have got : (dispatcher.onReactor Session.delegates).run noted =
      .ok (registered recorded.session.reactor) noted :=
    Dispatcher.run_onReactor (Session.run_delegates holds.1.unlocked)
  have pointer : (dispatcher.reactor.get noted).pointer notification = some notification :=
    holds.2.2.pointer notification
  have made : ∀ n ∈ registered recorded.session.reactor,
      n < noted.session.reactor.notifierCount := by
    intro n member
    obtain ⟨fd, found⟩ := Session.handler_of_mem member
    exact (holds.2.1.keyed fd n found).1
  have kept : steady.holds noted.session := holds
  obtain ⟨next, ran, records⟩ := run_delegates kept _ made notification
  refine ⟨next, ?_, ?_⟩
  · rw [Dispatcher.dispatchAll, EStateM.run_bind, run_broadcasting]
    simp only [EStateM.run_bind, noted, got, EStateM.run_get, pointer, ran]
  · exact records.trans (List.append_assoc recorded.records _ _)

def anyReadable (sm : PollSet.SocketModeMap) : Bool :=
  sm.toList.any fun ready => Session.isReady ready.2 PollSet.POLL_READ

theorem run_timeout (holds : steady.holds recorded.session) (sm : PollSet.SocketModeMap) :
    ∃ next, ∃ registered : List Nat,
      (Exec.when (!anyReadable sm) dispatcher.onTimeout).run recorded = .ok () next ∧
      next.records = recorded.records ++
        if anyReadable sm then [] else broadcastRecords .timeout registered := by
  cases anyReadable sm with
  | true => exact ⟨recorded, [], rfl, (List.append_nil _).symm⟩
  | false =>
      obtain ⟨next, broadcast, told⟩ := run_dispatchAll holds .timeout
      exact ⟨next, _, broadcast, told⟩

theorem run_turn
    {answers : List (Except Nat (List (Epoll.Event Nat)))} {sm : PollSet.SocketModeMap}
    (attended : Session.hasSocketHandlers.run recorded.session.reactor =
      .ok true recorded.session.reactor)
    (polled : (PollSet.poll answers).run recorded.session.reactor.pollSet =
      .ok sm recorded.session.reactor.pollSet)
    {served last : Recorded}
    (ran : (Exec.forEach sm.toList dispatcher.serve).run recorded = .ok () served)
    (timedOut : (Exec.when (!anyReadable sm) dispatcher.onTimeout).run served = .ok () last) :
    ∃ next, (turn answers).run recorded = .ok () next ∧ next.records = last.records := by
  have asked : (dispatcher.onReactor Session.hasSocketHandlers).run recorded = .ok true recorded :=
    Dispatcher.run_onReactor attended
  have polled : (Exec.on pollSetField (PollSet.poll answers)).run recorded.session.reactor =
      .ok sm recorded.session.reactor :=
    (Exec.run_on_ok polled).trans
      (congrArg (EStateM.Result.ok sm) (pollSetField.set_get recorded.session.reactor))
  have result : (dispatcher.onReactor (Exec.on pollSetField (PollSet.poll answers))).run recorded =
      .ok sm recorded := Dispatcher.run_onReactor polled
  rw [anyReadable] at timedOut
  let discard : Method Unit := dispatcher.onReactor (Exec.on pollSetField (PollSet.discard sm))
  have discarded : discard.run last = .ok () (Exec.last discard last) := rfl
  refine ⟨Exec.last discard last, Exec.run_catching_ok ?_, rfl⟩
  simp only [EStateM.run_bind, asked, if_true, result, ran, timedOut, discarded, discard]

theorem sockets_ordered (sm : PollSet.SocketModeMap) :
    (sm.toList.map Prod.fst).Pairwise (· < ·) := by
  rw [List.pairwise_map]
  exact Std.TreeMap.ordered_keys_toList.imp fun less => Int.compare_eq_lt.mp less

/-- A turn of the loop that gets a poll result has all its ready bits dispatched, in order and
once each, where there is a handler, and then broadcasts a timeout unless there was something
to read. -/
theorem turn_serves_batch {session : Session} (idle : session.reactor.Idle true none)
    (sound : session.reactor.Sound) (owned : session.reactor.Owned)
    {answers : List (Except Nat (List (Epoll.Event Nat)))} {sm : PollSet.SocketModeMap}
    (attended : Session.hasSocketHandlers.run session.reactor = .ok true session.reactor)
    (polled : (PollSet.poll answers).run session.reactor.pollSet =
      .ok sm session.reactor.pollSet) :
    ∃ last, ∃ dues : List Due, ∃ registered : List Nat,
      (turn answers).run ⟨session, []⟩ = .ok () last ∧
      (Session.turn answers).run session = .ok () last.session ∧
      (sm.toList.map Prod.fst).Pairwise (· < ·) ∧
      dues.map Due.bit = sm.toList.flatMap bits ∧
      last.records = dues.flatMap attendance ++
        if anyReadable sm then [] else broadcastRecords .timeout registered := by
  let recorded : Recorded := ⟨session, []⟩
  have holds : steady.holds recorded.session := ⟨idle, sound, owned⟩
  obtain ⟨served, dues, ran, inOrder, records, kept⟩ :=
    serves_forEach serves_serve sm.toList recorded holds
  obtain ⟨last, registered, timedOut, told⟩ := run_timeout kept sm
  obtain ⟨next, turned, same⟩ := run_turn attended polled ran timedOut
  have tracked := covers_session.turn answers recorded
  rw [show (dispatcher.turn answers).run recorded = _ from turned] at tracked
  exact ⟨next, dues, registered, turned, tracked.symm, sockets_ordered sm, inOrder,
    by rw [same, told, records]; rfl⟩

/-- The first of two observers has the other's handler removed, and throws. -/
theorem turn_serves_batch_of_two :
    let other : Call := .remove ⟨200, 4⟩ (.onSocket 2 .readable 0)
    let first := ((SocketReactor.empty true (fun _ => true) Epoll.strict).outcome
      (.add ⟨100, 3⟩ (.onSocket 1 .readable 0))).2
    let second := (first.outcome (.add ⟨200, 4⟩ (.onSocket 2 .readable 0))).2
    let session := Session.start second fun _ => ⟨[other], true⟩
    let answers := [.ok [⟨Epoll.EPOLLIN, 200⟩, ⟨Epoll.EPOLLIN, 100⟩]]
    ∃ last : Recorded, (Session.turn answers).run session = .ok () last.session ∧
      last.records =
        [.due ⟨3, .readable, some 0⟩, .dispatched 0 (some .readable),
          .due ⟨4, .readable, none⟩] := by
  intro other first second session answers
  have made : second.Ready none := ((ready_empty (fun _ => true) Epoll.strict).outcome _).outcome _
  have ready : session.reactor.Ready none := made
  have owned : session.reactor.Owned := by
    intro notification
    cases notification <;> decide +kernel
  obtain ⟨answer, asked⟩ := Session.run_hasSocketHandlers ready.idle.unlocked
  have attended : answer = true := by
    have evaluated : (match Session.hasSocketHandlers.run session.reactor with
        | .ok answer _ => answer
        | .error _ _ => false) = true := by decide +kernel
    rwa [asked] at evaluated
  have polled : ∃ sm, (PollSet.poll answers).run session.reactor.pollSet =
      .ok sm session.reactor.pollSet := by
    have evaluated : (match (PollSet.poll answers).run session.reactor.pollSet with
        | .ok _ _ => true
        | .error _ _ => false) = true := by decide +kernel
    rcases PollSet.run_poll ready.idle.unlocked.pollSet answers with found | ⟨what, ran⟩ | ran
    · exact found
    · rw [ran] at evaluated
      contradiction
    · rw [ran] at evaluated
      contradiction
  obtain ⟨sm, polled⟩ := polled
  obtain ⟨last, _, _, turned, tracked, _⟩ := turn_serves_batch ready.idle ready.sound owned
    (attended ▸ asked) polled
  refine ⟨last, tracked, ?_⟩
  rw [← Exec.last_of_ok turned]
  decide +kernel

end Recorded

end SocketReactor

end TestReactor
