import TestReactor.EchoServiceHandler.Conservation
import TestReactor.EchoServiceHandler.Deletion

namespace TestReactor

namespace EchoServiceHandler

/-! A handler from its construction past its deletion. -/

inductive Notice where
  | traffic (callback : Callback)
  | shutdown

namespace Notice

def interest : Notice → Interest
  | .traffic callback => callback.interest
  | .shutdown => .shutdown

def run : Notice → Method Unit
  | .traffic callback => callback.run
  | .shutdown => onSocketShutdown

def Answered (handler : State) : Notice → Prop
  | .traffic callback => callback.Answered handler
  | .shutdown => True

/-- A notice that gives the handler no reason to delete itself. -/
def Served (handler : State) : Notice → Prop
  | .traffic callback => callback.Served handler
  | .shutdown => False

end Notice

/-- The observers that a handler has registered: none once it has deleted itself. -/
def demands (handler : State) (interest : Interest) : Bool :=
  handler.alive && wanted handler interest

/-- What the handler sends it has received, in this order, though not every byte of it: nothing
is sent twice, and nothing out of turn. -/
structure InOrder (handler : State) : Prop where
  sent : handler.sent.Sublist handler.received
  held : handler.alive = true →
    (handler.sent ++ handler.fifoOut.content ++ handler.fifoIn.content).Sublist handler.received

section InOrder

variable {handler next : State}

theorem InOrder.of_held (held : (handler.sent ++ handler.fifoOut.content ++
    handler.fifoIn.content).Sublist handler.received) : InOrder handler := by
  refine ⟨List.Sublist.trans ?_ held, fun _ => held⟩
  rw [List.append_assoc]
  exact List.sublist_append_left _ _

theorem passed_sublist (working : Working handler) {data : List UInt8}
    (room : handler.fifoIn.used + data.length ≤ handler.fifoIn.size) :
    (handler.written data ++ (handler.echoed data).fifoIn.content).Sublist
      (handler.fifoIn.content ++ data) := by
  have front : handler.written data <+: handler.fifoIn.content ++ data := by
    rw [written_eq working]
    exact List.take_prefix _ _
  rw [content_in_echoed working room]
  split
  case isTrue =>
    rw [List.append_nil]
    exact front.sublist
  case isFalse =>
    rw [List.prefix_iff_eq_append.mp front]

theorem InOrder.moves (working : Working handler) (order : InOrder handler) {callback : Callback}
    (moves : Moves handler callback next) : InOrder next := by
  have held := order.held working.alive
  apply InOrder.of_held
  cases moves with
  | echoed data nonempty room =>
      rw [content_out_echoed working]
      show (handler.sent ++ (handler.fifoOut.content ++ handler.written data) ++
        (handler.echoed data).fifoIn.content).Sublist (handler.received ++ data)
      have passed := (passed_sublist working room).append_left
        (handler.sent ++ handler.fifoOut.content)
      have kept := held.append_right data
      rw [List.append_assoc] at kept
      rw [← List.append_assoc handler.sent, List.append_assoc (_ ++ _)]
      exact passed.trans kept
  | flushed count positive enough =>
      rw [content_out_flushed working positive]
      show (handler.sent ++ handler.fifoOut.content.take count ++
        handler.fifoOut.content.drop count ++ handler.fifoIn.content).Sublist handler.received
      rw [List.append_assoc handler.sent, List.take_append_drop]
      exact held

theorem InOrder.idled (working : Working handler) (order : InOrder handler) :
    InOrder handler.idled := by
  apply InOrder.of_held
  show (handler.sent ++ handler.fifoOut.compacted.content ++ _).Sublist handler.received
  rw [BasicFIFOBuffer.content_compacted working.output.sound]
  exact order.held working.alive

theorem InOrder.dies (order : InOrder handler) (dies : Dies handler next) : InOrder next := by
  refine ⟨?_, ?_⟩
  · rw [dies.sent, dies.received]
    exact order.sent
  · intro alive
    rw [dies.alive] at alive
    contradiction

theorem inOrder_construct (socket : ServerSocket) : InOrder (construct socket true) := by
  apply InOrder.of_held
  rw [BasicFIFOBuffer.content_nil rfl, BasicFIFOBuffer.content_nil rfl]
  exact List.Sublist.refl _

end InOrder

theorem demands_of_live {handler : State} (live : Live handler) :
    demands handler = wanted handler := by
  funext interest
  rw [demands, live.working.alive, Bool.true_and]

theorem Live.idled {handler : State} (live : Live handler) : Live handler.idled :=
  ⟨⟨live.working.input, live.working.output.compacted, live.working.alive⟩, live.input,
    live.output⟩

namespace Attached

/-- What happens to a handler and its reactor: a notice comes to the handler, somebody else
makes a call on the reactor, or a copy of a socket with some descriptor is destroyed, as at the
end of a turn that has polled it. -/
inductive Incident where
  | notice (notice : Notice)
  | elsewhere (call : SocketReactor.Call)
  | closed (fd : Int)

/-- The notice comes through an observer of the handler, which is locked until it returns. -/
def live (attached : Attached) : Incident → Option Attached
  | .notice notice => do
      let (_, id) ← attached.reactor.listing attached.socket (attached.observer notice.interest)
      let (_, next) ← notice.run.returns attached.handler
      let mutex := reactorField.part (SocketReactor.observerMutex id)
      match (scopedLock mutex (heed next)).run attached with
      | .ok _ last => some last
      | .error _ _ => none
  | .elsewhere call => attached.step (.elsewhere call)
  | .closed fd => some { attached with reactor := attached.reactor.closing fd }

structure Heeds (attached : Attached) (next : State) (requests : List Request) : Prop where
  socket : next.socket = attached.handler.socket
  asked : next.requests = attached.handler.requests ++ requests
  apart : ∀ request ∈ requests, request.interest ≠ .shutdown
  live : Live next
  order : InOrder attached.handler → InOrder next
  follows : ∀ {registry : Registry Int Observer}, registry.Distinct →
    attached.Matches registry (wanted attached.handler) →
    attached.Matches (attached.entered registry requests) (wanted next)

section Notices

variable {attached : Attached} {next : State}

theorem heeds_of_survives (live : Live attached.handler) {callback : Callback}
    (survives : Survives attached.handler callback next) :
    ∃ requests, Heeds attached next requests := by
  cases survives with
  | moves moves =>
      obtain ⟨requests, asked, apart, follows⟩ := follows_of_moves attached live moves
      exact ⟨requests, socket_of_moves moves, asked, apart, live.next moves,
        fun order => order.moves live.working moves, follows _⟩
  | idles answers =>
      exact ⟨[], rfl, (List.append_nil _).symm, fun _ member => absurd member List.not_mem_nil,
        live.idled, fun order => order.idled live.working, fun _ follows => follows⟩

/-- A notice to a live handler returns if the kernel answers.  The handler would outlive it if
and only if it is served. -/
theorem run_notice (live : Live attached.handler) {notice : Notice}
    (answered : notice.Answered attached.handler) :
    ∃ next, notice.run.run attached.handler = .ok () next ∧
      (notice.Served attached.handler ∧ (∃ requests, Heeds attached next requests) ∨
        ¬ notice.Served attached.handler ∧ Dies attached.handler next) := by
  cases notice with
  | traffic callback =>
      obtain ⟨next, ran, ⟨served, survives⟩ | ⟨unserved, dies⟩⟩ :=
        run_callback live.working answered
      · exact ⟨next, ran, .inl ⟨served, heeds_of_survives live survives⟩⟩
      · exact ⟨next, ran, .inr ⟨unserved, dies⟩⟩
  | shutdown =>
      obtain ⟨next, ran, dies⟩ := dies_destroy attached.handler rfl rfl rfl rfl
      exact ⟨next, ran, .inr ⟨id, dies⟩⟩

/-- A handler that its callback deletes, before the destructor runs: some requests have been
made on the way. -/
structure Leaving (attached : Attached) (held : Option Nat) (next : State) (made : List Request)
    (middle : Attached) : Prop where
  object : middle.object = attached.object
  address : middle.address = attached.address
  socket : middle.handler.socket = attached.handler.socket
  sent : middle.handler.sent = next.sent
  received : middle.handler.received = next.received
  apart : ∀ request ∈ made, request.interest ≠ .shutdown
  took : attached.Took held made middle.reactor

variable {held : Option Nat}

theorem entered_passed (socket : next.socket = attached.handler.socket)
    (registry : Registry Int Observer) (requests : List Request) :
    (attached.passed next).entered registry requests = attached.entered registry requests := by
  simp only [entered, Attached.call, Attached.socket, Attached.observer, passed, socket]

theorem carryOut_passed (socket : next.socket = attached.handler.socket)
    (requests : List Request) :
    (attached.passed next).carryOut requests = attached.carryOut requests := by
  simp only [carryOut, Attached.call, Attached.socket, Attached.observer, passed, socket]

theorem took_of_passed (socket : next.socket = attached.handler.socket) {made : List Request}
    {reactor : SocketReactor} (took : (attached.passed next).Took held made reactor) :
    attached.Took held made reactor :=
  ⟨took.ready, took.registered.trans (entered_passed socket _ made), took.refusal⟩

theorem leaving_of_took (socket : next.socket = attached.handler.socket) {made : List Request}
    (apart : ∀ request ∈ made, request.interest ≠ .shutdown) {reactor : SocketReactor}
    (took : (attached.passed next).Took held made reactor) :
    attached.Leaving held next made ((attached.passed next).asked made reactor) :=
  ⟨rfl, rfl, socket, rfl, rfl, apart, took_of_passed socket took⟩

/-- The callback of a notice that is not served: the handler deletes itself. -/
theorem heed_of_dies (ready : attached.reactor.Ready held) (dies : Dies attached.handler next) :
    ∃ middle, attached.Leaving held next [] middle ∧ middle.reactor = attached.reactor ∧
      (heed next).run attached = destruct.run middle := by
  have none : slots attached.handler next = [] := by
    simp [slots, dies.alive, dies.requests]
  let middle := (attached.passed next).asked [] attached.reactor
  have tried : (attempt next).run attached = .ok () middle := by
    simp only [attempt, EStateM.run_bind, EStateM.run_get, EStateM.run_set, none, middle, asked,
      List.append_nil]
    rfl
  have took : (attached.passed next).Took held [] attached.reactor := ⟨ready, rfl, rfl⟩
  refine ⟨middle,
    leaving_of_took dies.socket (fun _ member => absurd member List.not_mem_nil) took, rfl, ?_⟩
  have ready : middle.reactor.Ready held := ready
  rw [heed, Exec.run_catching, EStateM.run_bind, tried]
  simp only [dies.alive, Bool.not_false, Exec.run_when_true]
  rcases run_destruct ready with ⟨reactor, -, ran, -⟩ | ⟨-, last, ran⟩ <;> rw [ran]

/-- The callback of a notice that is served: the reactor takes what the slots ask for, or it
throws, and the handler goes. -/
theorem heed_of_heeds (alive : attached.handler.alive = true)
    (ready : attached.reactor.Ready held) {requests : List Request}
    (heeds : Heeds attached next requests) :
    (∃ reactor, (attached.carryOut requests).run attached.reactor = .ok () reactor ∧
      (attempt next).run attached = .ok () { attached with handler := next, reactor := reactor } ∧
      (heed next).run attached = .ok () { attached with handler := next, reactor := reactor } ∧
      attached.Took held requests reactor) ∨
    (∀ reactor, (attached.carryOut requests).run attached.reactor ≠ .ok () reactor) ∧
      (∀ last, (attempt next).run attached ≠ .ok () last) ∧
      ∃ made middle, attached.Leaving held next made middle ∧
        (heed next).run attached = destruct.run middle := by
  have survives := heeds.live.working.alive
  have tried : (attempt next).run attached =
      (Exec.forEach requests ask).run (attached.passed next) := by
    have asks : slots attached.handler next = requests := by
      simp only [slots, survives, if_true, heeds.asked, List.drop_left]
    rw [← asks]
    rfl
  have ready : (attached.passed next).reactor.Ready held := ready
  rw [heed, Exec.run_catching, EStateM.run_bind, tried]
  rcases run_asks ready requests with
    ⟨reactor, carried, asks, took⟩ | ⟨what, made, reactor, part, stuck, asks, took⟩
  · have moved : (attached.passed next).asked requests reactor =
        { attached with handler := next, reactor := reactor } := by
      simp only [asked, passed, ← heeds.asked, alive, ← survives]
    rw [moved] at asks
    rw [carryOut_passed heeds.socket] at carried
    refine .inl ⟨reactor, carried, asks, ?_, took_of_passed heeds.socket took⟩
    simp only [asks, survives, Bool.not_true, Exec.run_when_false]
  · have apart : ∀ request ∈ made, request.interest ≠ .shutdown :=
      fun request member => heeds.apart request (part.subset member)
    rw [carryOut_passed heeds.socket] at stuck
    refine .inr ⟨stuck, ?_, made, _, leaving_of_took heeds.socket apart took, ?_⟩
    · rintro last same
      cases asks.symm.trans same
    · rw [asks]

end Notices

/-! The reactor's registrations, those of others beside the handler's. -/

section Registrations

variable {attached : Attached} {registry : Registry Int Observer} {fd : Int} {observer : Observer}

/-- The registrations without those of the handler. -/
def Incident.entered (registry : Registry Int Observer) : Incident → Registry Int Observer
  | .notice _ | .closed _ => registry
  | .elsewhere call => call.enter registry

/-- The invariant of the handler's life at `object` and on `sockfd`, `others` being what the
reactor would have registered without it. -/
structure Tenancy (object : Nat) (sockfd : Int) (others : Registry Int Observer)
    (attached : Attached) : Prop where
  object : attached.object = object
  sockfd : attached.socket.sockfd = sockfd
  ready : attached.reactor.Ready none
  live : attached.handler.alive = true → Live attached.handler
  order : InOrder attached.handler
  follows : attached.Matches attached.reactor.registered (demands attached.handler)
  distinct : others.Distinct
  apart : ∀ interest, attached.observer interest ∉ others attached.socket.sockfd
  agrees : ∀ fd observer, ¬ attached.Own fd observer →
    (observer ∈ attached.reactor.registered fd ↔ observer ∈ others fd)

variable {object : Nat} {sockfd : Int} {others : Registry Int Observer}

theorem Tenancy.registered (tenancy : attached.Tenancy object sockfd others) :
    observer ∈ attached.reactor.registered fd ↔
      observer ∈ others fd ∨ fd = sockfd ∧ ∃ interest,
        demands attached.handler interest = true ∧ observer = interest.observer object := by
  rw [← tenancy.sockfd, ← tenancy.object]
  by_cases own : attached.Own fd observer
  case pos =>
    obtain ⟨rfl, interest, rfl⟩ := own
    rw [tenancy.follows interest, or_iff_right (tenancy.apart interest)]
    constructor
    · exact fun demanded => ⟨rfl, interest, demanded, rfl⟩
    · rintro ⟨_, other, demanded, same⟩
      rwa [observer_inj same]
  case neg =>
    rw [tenancy.agrees fd observer own, or_iff_left]
    rintro ⟨under, interest, _, same⟩
    exact own ⟨under, interest, same⟩

theorem Tenancy.has_iff (tenancy : attached.Tenancy object sockfd others) (interest : Interest) :
    attached.Has interest ↔ demands attached.handler interest = true :=
  tenancy.follows interest

theorem Tenancy.live_of_has (tenancy : attached.Tenancy object sockfd others)
    {interest : Interest} (has : attached.Has interest) : Live attached.handler := by
  have demanded := (tenancy.has_iff interest).mp has
  exact tenancy.live (Bool.and_eq_true_iff.mp demanded).1

end Registrations

/-! Steps and runs. -/

section Steps

variable {attached next : Attached} {object : Nat} {sockfd : Int} {others : Registry Int Observer}
  {held : Option Nat}

def locked (attached : Attached) (id : Nat) : Attached :=
  { attached with
    reactor := (SocketReactor.observerMutex id).set
      ((SocketReactor.observerMutex id).get attached.reactor).enter attached.reactor }

def released (attached : Attached) (id : Nat) : Attached :=
  { attached with
    reactor := (SocketReactor.observerMutex id).set
      ((SocketReactor.observerMutex id).get attached.reactor).leave attached.reactor }

theorem live_notice (ready : attached.reactor.Ready none) {notice : Notice} {handler : State}
    {n id : Nat}
    (listed : attached.reactor.listing attached.socket (attached.observer notice.interest) =
      some (n, id)) (ran : notice.run.run attached.handler = .ok () handler) :
    attached.live (.notice notice) = match (heed handler).run (attached.locked id) with
      | .ok _ last => some (last.released id)
      | .error _ _ => none := by
  have lockable : ((reactorField.part (SocketReactor.observerMutex id)).get attached).Lockable :=
    ready.idle.recursive_cell id
  simp only [live, listed, Exec.returns, ran, Option.bind_eq_bind, Option.bind_some]
  rw [run_scopedLock_of_lockable _ _ lockable]
  have entered : (reactorField.part (SocketReactor.observerMutex id)).set
      ((reactorField.part (SocketReactor.observerMutex id)).get attached).enter attached =
      attached.locked id := rfl
  rw [entered]
  cases (heed handler).run (attached.locked id) with
  | ok value last => rfl
  | error stop last => cases stop <;> rfl

theorem has_of_listing {interest : Interest} {found : Nat × Nat}
    (listed : attached.reactor.listing attached.socket (attached.observer interest) =
      some found) : attached.Has interest := by
  apply Classical.byContradiction
  intro absent
  rw [SocketReactor.listing_eq_none_iff.mpr absent] at listed
  contradiction

theorem answered_of_returns (live : Live attached.handler) {notice : Notice}
    {result : Except String Unit × State}
    (returns : notice.run.returns attached.handler = some result) :
    notice.Answered attached.handler := by
  cases notice with
  | shutdown => trivial
  | traffic callback =>
      apply Classical.byContradiction
      intro unanswered
      cases (returns_of_unanswered live.working unanswered).symm.trans returns

def Due (attached : Attached) : Incident → Prop
  | .notice notice => attached.Has notice.interest ∧ notice.Answered attached.handler
  | .elsewhere call => attached.foreign call = true
  | .closed _ => True

theorem Tenancy.due (tenancy : attached.Tenancy object sockfd others) {incident : Incident}
    (stepped : attached.live incident = some next) : attached.Due incident := by
  cases incident with
  | notice notice =>
      cases listed : attached.reactor.listing attached.socket
          (attached.observer notice.interest) with
      | none => simp [Attached.live, listed] at stepped
      | some found =>
          have has := has_of_listing listed
          cases returns : notice.run.returns attached.handler with
          | none => simp [Attached.live, listed, returns] at stepped
          | some result =>
              exact ⟨has, answered_of_returns (tenancy.live_of_has has) returns⟩
  | elsewhere call => exact (step_elsewhere tenancy.ready stepped).1
  | closed fd => trivial

/-- An incident that leaves the handler alive: the notice is served, and the reactor throws at
none of the requests that the slots make. -/
def Spares (attached : Attached) : Incident → Prop
  | .notice notice => notice.Served attached.handler ∧
      ∀ n id next, attached.reactor.listing attached.socket (attached.observer notice.interest) =
          some (n, id) → notice.run.run attached.handler = .ok () next →
        ∃ last, (attempt next).run (attached.locked id) = .ok () last
  | .elsewhere _ | .closed _ => True

theorem Tenancy.carried (tenancy : attached.Tenancy object sockfd others) {last : Attached}
    (place : last.object = attached.object) (socket : last.handler.socket = attached.handler.socket)
    (ready : last.reactor.Ready none) {requests : List Request}
    (registered : last.reactor.registered =
      attached.entered attached.reactor.registered requests)
    (live : last.handler.alive = true → Live last.handler) (order : InOrder last.handler)
    (follows : attached.Matches last.reactor.registered (demands last.handler)) :
    last.Tenancy object sockfd others := by
  have same : last.socket.sockfd = attached.socket.sockfd := congrArg ServerSocket.sockfd socket
  have mine : ∀ interest, last.observer interest = attached.observer interest := by
    intro interest
    rw [observer, observer, place]
  refine ⟨place.trans tenancy.object, same.trans tenancy.sockfd, ready, live, order, ?_,
    tenancy.distinct, ?_, ?_⟩
  · intro interest
    rw [mine, same]
    exact follows interest
  · intro interest
    rw [mine, same]
    exact tenancy.apart interest
  · intro fd observer apart
    have apart : ¬ attached.Own fd observer := by
      simpa only [Own, same, mine] using apart
    rw [← tenancy.agrees fd observer apart, registered]
    exact mem_entered_of_not_own tenancy.ready.distinct apart requests

theorem registered_locked (attached : Attached) (id : Nat) :
    (attached.locked id).reactor.registered = attached.reactor.registered :=
  SocketReactor.registered_locked _ _ _

theorem registered_released (attached : Attached) (id : Nat) :
    (attached.released id).reactor.registered = attached.reactor.registered :=
  SocketReactor.registered_locked _ _ _

theorem Tenancy.survives (tenancy : attached.Tenancy object sockfd others) {id : Nat}
    {handler : State} {requests : List Request} (alive : attached.handler.alive = true)
    (heeds : Heeds (attached.locked id) handler requests) {reactor : SocketReactor}
    (took : (attached.locked id).Took (some id) requests reactor) :
    (released { attached with handler := handler, reactor := reactor } id).Tenancy object sockfd
      others := by
  let last := released { attached with handler := handler, reactor := reactor } id
  have registered : last.reactor.registered =
      attached.entered attached.reactor.registered requests := by
    have entered := took.registered
    rw [registered_locked] at entered
    exact (registered_released _ id).trans entered
  have live := tenancy.live alive
  have follows := tenancy.follows
  rw [demands_of_live live] at follows
  apply @Tenancy.carried attached object sockfd others tenancy last rfl heeds.socket took.ready.left
    requests registered (fun _ => heeds.live) (heeds.order tenancy.order)
  rw [registered, show last.handler = handler from rfl, demands_of_live heeds.live]
  exact heeds.follows tenancy.ready.distinct follows

theorem Leaving.has {handler : State} {made : List Request} {middle : Attached}
    (distinct : attached.reactor.registered.Distinct)
    (leaving : attached.Leaving held handler made middle) (has : attached.Has .shutdown) :
    middle.Has .shutdown := by
  have place : middle.observer .shutdown = attached.observer .shutdown := by
    rw [observer, observer, leaving.object]
  have same : middle.socket.sockfd = attached.socket.sockfd :=
    congrArg ServerSocket.sockfd leaving.socket
  rw [Has, place, same, leaving.took.registered, mem_entered distinct]
  · exact has
  · rintro request member ⟨-, same⟩
    exact leaving.apart request member (observer_inj same).symm

theorem Leaving.alone_iff {handler : State} {made : List Request} {middle : Attached}
    (distinct : attached.reactor.registered.Distinct)
    (leaving : attached.Leaving held handler made middle) : middle.Alone ↔ attached.Alone := by
  have same : middle.socket.sockfd = attached.socket.sockfd :=
    congrArg ServerSocket.sockfd leaving.socket
  have mine : ∀ fd other, middle.Own fd other ↔ attached.Own fd other := by
    intro fd other
    simp only [Own, same, observer, leaving.object]
  have others : ∀ other, ¬ attached.Own attached.socket.sockfd other →
      (other ∈ middle.reactor.registered attached.socket.sockfd ↔
        other ∈ attached.reactor.registered attached.socket.sockfd) := by
    intro other apart
    rw [leaving.took.registered]
    exact mem_entered_of_not_own distinct apart made
  simp only [Alone, same, mine]
  constructor <;> intro alone other member <;> apply Classical.byContradiction <;> intro apart
  · exact apart (alone other ((others other apart).mpr member))
  · exact apart (alone other ((others other apart).mp member))

/-- A handler that goes: the destructor comes to its end, with somebody else left on the socket,
or it ends the program. -/
theorem Tenancy.departs (tenancy : attached.Tenancy object sockfd others) {id : Nat}
    (has : attached.Has .shutdown) {handler : State} (order : InOrder handler)
    {made : List Request} {middle : Attached}
    (leaving : (attached.locked id).Leaving (some id) handler made middle) :
    (∃ last, destruct.run middle = .ok () last ∧
      (last.released id).Tenancy object sockfd others ∧ last.handler.alive = false ∧
      last.reactor.pollSet.epoll.refusal = attached.reactor.pollSet.epoll.refusal ∧
      ¬ attached.Alone) ∨
    (∀ reactor, (middle.carryOut farewell).run middle.reactor ≠ .ok () reactor) ∧
      ∃ last, destruct.run middle = .error .abort last := by
  have distinct := tenancy.ready.distinct
  rw [← registered_locked attached id] at distinct
  rcases run_destruct leaving.took.ready with ⟨reactor, carried, ran, took⟩ | ended
  case inr => exact .inr ended
  have has : middle.Has .shutdown := by
    apply leaving.has distinct
    rw [Has, registered_locked]
    exact has
  have company : ¬ attached.Alone := by
    intro alone
    have alone : (attached.locked id).Alone := by
      rw [Alone, registered_locked]
      exact alone
    exact not_destroyed_of_alone leaving.took.ready ((leaving.alone_iff distinct).mpr alone) has _
      carried
  refine .inl ⟨_, ran, ?_, rfl, took.refusal.trans leaving.took.refusal, company⟩
  have calls : ∀ request, middle.call request = attached.call request := by
    intro request
    simp only [Attached.call, Attached.socket, observer, leaving.object, leaving.address,
      leaving.socket]
    rfl
  have registered : reactor.registered =
      attached.entered attached.reactor.registered (made ++ farewell) := by
    rw [took.registered, leaving.took.registered, registered_locked, entered_append]
    simp only [entered, calls]
    rfl
  let last := released (middle.asked farewell reactor).deleted id
  have left : last.reactor.registered = reactor.registered := registered_released _ id
  have ready : last.reactor.Ready none := (took.ready.closing middle.socket.sockfd).left
  have kept : InOrder last.handler := by
    refine ⟨?_, fun alive => absurd alive Bool.false_ne_true⟩
    show middle.handler.sent.Sublist middle.handler.received
    rw [leaving.sent, leaving.received]
    exact order.sent
  apply @Tenancy.carried attached object sockfd others tenancy last leaving.object leaving.socket
    ready _ (left.trans registered) (fun alive => absurd alive Bool.false_ne_true) kept
  rw [left, registered, entered_append]
  exact matches_farewell attached (distinct_entered attached tenancy.ready.distinct made)

theorem accompanied_locked (has : attached.Has .shutdown) (id : Nat) {requests : List Request}
    (apart : ∀ request ∈ requests, request.interest ≠ .shutdown) :
    (attached.locked id).Accompanied (attached.locked id).reactor.registered requests := by
  rw [registered_locked]
  apply @accompanied_of_other (attached.locked id) _ (attached.observer .shutdown) _ has
  intro request member same
  exact apart request member (observer_inj same).symm

/-- How a notice that can come now comes out: the handler stays at work; or it goes, with somebody
else's observers on its socket; or the program ends with it, which where `epoll_ctl` succeeds
takes a handler that is alone. -/
inductive Outcome (object : Nat) (sockfd : Int) (others : Registry Int Observer)
    (attached : Attached) (notice : Notice) : Prop where
  | stays (next : Attached) (stepped : attached.live (.notice notice) = some next)
      (spares : attached.Spares (.notice notice)) (tenancy : next.Tenancy object sockfd others)
      (alive : next.handler.alive = true)
      (refusal : next.reactor.pollSet.epoll.refusal = attached.reactor.pollSet.epoll.refusal)
      (permitted : attached.Permitted → next.Permitted)
  | goes (next : Attached) (stepped : attached.live (.notice notice) = some next)
      (unspared : ¬ attached.Spares (.notice notice)) (tenancy : next.Tenancy object sockfd others)
      (dead : next.handler.alive = false)
      (refusal : next.reactor.pollSet.epoll.refusal = attached.reactor.pollSet.epoll.refusal)
      (company : ¬ attached.Alone)
  | ends (none : attached.live (.notice notice) = none)
      (unspared : ¬ attached.Spares (.notice notice)) (alone : attached.Permitted → attached.Alone)

section Outcomes

variable {notice : Notice} {handler : State} {n id : Nat}

theorem Tenancy.outcome_of_leaving (tenancy : attached.Tenancy object sockfd others)
    (has : attached.Has .shutdown) (order : InOrder handler)
    (stepped : attached.live (.notice notice) =
      match (heed handler).run (attached.locked id) with
      | .ok _ last => some (last.released id)
      | .error _ _ => none)
    (unspared : ¬ attached.Spares (.notice notice)) {made : List Request} {middle : Attached}
    (leaving : (attached.locked id).Leaving (some id) handler made middle)
    (came : (heed handler).run (attached.locked id) = destruct.run middle)
    (alone : attached.Permitted →
      (∀ reactor, (middle.carryOut farewell).run middle.reactor ≠ .ok () reactor) →
        attached.Alone) :
    Outcome object sockfd others attached notice := by
  rcases tenancy.departs has order leaving with
    ⟨last, ended, kept, dead, refusal, company⟩ | ⟨stuck, last, ended⟩
  · exact .goes _ (by rw [stepped, came, ended]) unspared kept dead refusal company
  · exact .ends (by rw [stepped, came, ended]) unspared fun permitted => alone permitted stuck

theorem Tenancy.outcome_of_heeds (tenancy : attached.Tenancy object sockfd others)
    (has : attached.Has notice.interest) (shutdown : attached.Has .shutdown)
    (listed : attached.reactor.listing attached.socket (attached.observer notice.interest) =
      some (n, id)) (ran : notice.run.run attached.handler = .ok () handler)
    (served : notice.Served attached.handler) {requests : List Request}
    (heeds : Heeds (attached.locked id) handler requests) :
    Outcome object sockfd others attached notice := by
  have alive : (attached.locked id).handler.alive = true := (tenancy.live_of_has has).working.alive
  have ready : (attached.locked id).reactor.Ready (some id) :=
    tenancy.ready.locked (allocated_of_listing tenancy.ready listed)
  have stepped := live_notice tenancy.ready listed ran
  have accompanied := accompanied_locked shutdown id heeds.apart
  have willingly := fun permitted : attached.Permitted =>
    @carryOut_of_willing (attached.locked id) _ _ ready permitted.willing permitted.unclosed _
      accompanied
  rcases heed_of_heeds alive ready heeds with
    ⟨reactor, carried, tried, came, took⟩ | ⟨stuck, refused, made, middle, leaving, came⟩
  · refine .stays (released { attached with handler := handler, reactor := reactor } id) ?_
      ⟨served, ?_⟩ (tenancy.survives alive heeds took) heeds.live.working.alive took.refusal ?_
    · rw [stepped, came]
      rfl
    · intro m other next found other_ran
      cases listed.symm.trans found
      cases ran.symm.trans other_ran
      exact ⟨_, tried⟩
    · intro permitted
      obtain ⟨last, same, willing, unclosed⟩ := willingly permitted
      cases carried.symm.trans same
      refine ⟨willing, ?_⟩
      have same : handler.socket = attached.handler.socket := heeds.socket
      change reactor.pollSet.epoll.closed handler.socket.sockfd = false
      rw [same]
      exact unclosed
  · apply tenancy.outcome_of_leaving shutdown (heeds.order tenancy.order) stepped _ leaving came
    · intro permitted
      obtain ⟨reactor, carried, -⟩ := willingly permitted
      exact absurd carried (stuck reactor)
    · rintro ⟨-, takes⟩
      obtain ⟨last, tried⟩ := takes n id handler listed ran
      exact refused last tried

theorem Tenancy.outcome_of_dies (tenancy : attached.Tenancy object sockfd others)
    (shutdown : attached.Has .shutdown)
    (listed : attached.reactor.listing attached.socket (attached.observer notice.interest) =
      some (n, id)) (ran : notice.run.run attached.handler = .ok () handler)
    (unserved : ¬ notice.Served attached.handler) (dies : Dies attached.handler handler) :
    Outcome object sockfd others attached notice := by
  have ready : (attached.locked id).reactor.Ready (some id) :=
    tenancy.ready.locked (allocated_of_listing tenancy.ready listed)
  have distinct := tenancy.ready.distinct
  rw [← registered_locked attached id] at distinct
  obtain ⟨middle, leaving, same, came⟩ := heed_of_dies ready dies
  apply tenancy.outcome_of_leaving shutdown (tenancy.order.dies dies)
    (live_notice tenancy.ready listed ran) (fun spares => unserved spares.1) leaving came
  intro permitted stuck
  apply Classical.byContradiction
  intro company
  have alone : ¬ middle.Alone := by
    rw [leaving.alone_iff distinct, Alone, registered_locked]
    exact company
  have unclosed : middle.reactor.pollSet.epoll.closed middle.socket.sockfd = false := by
    rw [same, Attached.socket, leaving.socket]
    exact permitted.unclosed
  obtain ⟨reactor, carried⟩ := destroyed_of_company leaving.took.ready
    (same ▸ permitted.willing) unclosed alone
  exact stuck reactor carried

end Outcomes

theorem Tenancy.outcome (tenancy : attached.Tenancy object sockfd others) {notice : Notice}
    (has : attached.Has notice.interest) (answered : notice.Answered attached.handler) :
    Outcome object sockfd others attached notice := by
  have live := tenancy.live_of_has has
  have shutdown : attached.Has .shutdown := by
    rw [tenancy.has_iff, demands, live.working.alive]
    rfl
  cases listed : attached.reactor.listing attached.socket (attached.observer notice.interest) with
  | none => exact absurd has (SocketReactor.listing_eq_none_iff.mp listed)
  | some found =>
      obtain ⟨n, id⟩ := found
      obtain ⟨handler, ran, ⟨served, requests, heeds⟩ | ⟨unserved, dies⟩⟩ :=
        @run_notice (attached.locked id) live notice answered
      · exact tenancy.outcome_of_heeds has shutdown listed ran served heeds
      · exact tenancy.outcome_of_dies shutdown listed ran unserved dies

theorem mem_enter_observer {call : SocketReactor.Call} (foreign : attached.foreign call = true)
    (registry : Registry Int Observer) (fd : Int) (interest : Interest) :
    attached.observer interest ∈ call.enter registry fd ↔
      attached.observer interest ∈ registry fd := by
  have own : (attached.observer interest).object = some attached.object := rfl
  cases call with
  | add socket observer =>
      apply Registry.mem_add_of_ne
      rintro (same : attached.observer interest = observer)
      simp [Attached.foreign, ← same, own] at foreign
  | remove socket observer =>
      apply Registry.mem_remove_of_ne
      rintro (same : attached.observer interest = observer)
      simp [Attached.foreign, ← same, own] at foreign

theorem mem_enter_congr {first second : Registry Int Observer} (distinct : first.Distinct)
    (distinct' : second.Distinct) {fd : Int} {observer : Observer}
    (agree : observer ∈ first fd ↔ observer ∈ second fd) (call : SocketReactor.Call) :
    observer ∈ call.enter first fd ↔ observer ∈ call.enter second fd := by
  cases call with
  | add socket another =>
      exact Registry.mem_add_iff.trans ((or_congr_left agree).trans Registry.mem_add_iff.symm)
  | remove socket another =>
      exact (Registry.mem_remove_iff distinct).trans
        ((and_congr_left' agree).trans (Registry.mem_remove_iff distinct').symm)

theorem Tenancy.elsewhere (tenancy : attached.Tenancy object sockfd others)
    {call : SocketReactor.Call} (foreign : attached.foreign call = true) :
    ({ attached with reactor := (attached.reactor.outcome call).2 } : Attached).Tenancy object
      sockfd (call.enter others) := by
  have entered := tenancy.ready.registered_outcome call
  have distinct := SocketReactor.distinct_enter tenancy.distinct call
  refine ⟨tenancy.object, tenancy.sockfd, tenancy.ready.outcome call, tenancy.live,
    tenancy.order, ?_, distinct, ?_, ?_⟩
  · intro interest
    rw [← tenancy.follows interest, entered]
    exact mem_enter_observer foreign _ _ interest
  · intro interest member
    exact tenancy.apart interest ((mem_enter_observer foreign _ _ interest).mp member)
  · intro fd observer apart
    rw [entered]
    exact mem_enter_congr tenancy.ready.distinct tenancy.distinct
      (tenancy.agrees fd observer apart) call

theorem Tenancy.closed (tenancy : attached.Tenancy object sockfd others) (fd : Int) :
    ({ attached with reactor := attached.reactor.closing fd } : Attached).Tenancy object sockfd
      others :=
  ⟨tenancy.object, tenancy.sockfd, tenancy.ready.closing fd, tenancy.live, tenancy.order,
    tenancy.follows, tenancy.distinct, tenancy.apart, tenancy.agrees⟩

/-- What an incident leaves behind: the handler has outlived it if and only if it was spared. -/
theorem Tenancy.step (tenancy : attached.Tenancy object sockfd others) {incident : Incident}
    (stepped : attached.live incident = some next) :
    next.Tenancy object sockfd (incident.entered others) ∧
      next.reactor.pollSet.epoll.refusal = attached.reactor.pollSet.epoll.refusal ∧
      (next.handler.alive = true ↔
        attached.handler.alive = true ∧ attached.Spares incident) := by
  cases incident with
  | notice notice =>
      obtain ⟨has, answered⟩ := tenancy.due stepped
      have alive := (tenancy.live_of_has has).working.alive
      cases tenancy.outcome has answered with
      | stays last same spares kept lives refusal =>
          cases stepped.symm.trans same
          exact ⟨kept, refusal, iff_of_true lives ⟨alive, spares⟩⟩
      | goes last same unspared kept dead refusal =>
          cases stepped.symm.trans same
          refine ⟨kept, refusal, iff_of_false ?_ fun both => unspared both.2⟩
          rw [dead]
          exact Bool.false_ne_true
      | ends none => cases stepped.symm.trans none
  | elsewhere call =>
      obtain ⟨foreign, rfl⟩ := step_elsewhere tenancy.ready stepped
      exact ⟨tenancy.elsewhere foreign, SocketReactor.refusal_outcome _ _,
        (and_iff_left trivial).symm⟩
  | closed fd =>
      cases stepped
      exact ⟨tenancy.closed fd, rfl, (and_iff_left trivial).symm⟩

theorem Tenancy.permitted (tenancy : attached.Tenancy object sockfd others)
    (permitted : attached.handler.alive = true → attached.Permitted) {incident : Incident}
    (stepped : attached.live incident = some next) (unclosed : incident ≠ .closed sockfd) :
    next.handler.alive = true → next.Permitted := by
  cases incident with
  | notice notice =>
      obtain ⟨has, answered⟩ := tenancy.due stepped
      have before := permitted (tenancy.live_of_has has).working.alive
      cases tenancy.outcome has answered with
      | stays last same _ _ _ _ kept =>
          cases stepped.symm.trans same
          exact fun _ => kept before
      | goes last same _ _ dead =>
          cases stepped.symm.trans same
          intro alive
          cases dead.symm.trans alive
      | ends none => cases stepped.symm.trans none
  | elsewhere call =>
      obtain ⟨foreign, rfl⟩ := step_elsewhere tenancy.ready stepped
      intro alive
      have before := permitted alive
      have shutdown : attached.Has .shutdown := by
        rw [tenancy.has_iff, demands, show attached.handler.alive = true from alive]
        rfl
      refine ⟨?_, SocketReactor.unclosed_outcome before.unclosed ?_⟩
      · exact (SocketReactor.refusal_outcome attached.reactor call) ▸ before.willing
      · exact fun same => spares_of_foreign foreign same shutdown
  | closed fd =>
      cases stepped
      intro alive
      have before := permitted alive
      have other : attached.socket.sockfd ≠ fd := by
        rintro same
        exact unclosed (congrArg Incident.closed (same.symm.trans tenancy.sockfd))
      exact ⟨before.willing, Epoll.unclosed_close other before.unclosed⟩

theorem Tenancy.exec {last : Attached} {incidents : List Incident}
    (tenancy : attached.Tenancy object sockfd others)
    (reached : Runs.exec Attached.live attached incidents = some last) :
    last.Tenancy object sockfd (incidents.foldl Incident.entered others) := by
  induction incidents generalizing attached others with
  | nil =>
      cases reached
      exact tenancy
  | cons incident rest ih =>
      obtain ⟨next, stepped, reached⟩ := Option.bind_eq_some_iff.mp reached
      exact ih (tenancy.step stepped).1 reached

theorem Tenancy.permitted_exec {last : Attached} {incidents : List Incident}
    (tenancy : attached.Tenancy object sockfd others)
    (permitted : attached.handler.alive = true → attached.Permitted)
    (unclosed : ∀ incident ∈ incidents, incident ≠ .closed sockfd)
    (reached : Runs.exec Attached.live attached incidents = some last) :
    last.handler.alive = true → last.Permitted := by
  induction incidents generalizing attached others with
  | nil =>
      cases reached
      exact permitted
  | cons incident rest ih =>
      obtain ⟨next, stepped, reached⟩ := Option.bind_eq_some_iff.mp reached
      rw [List.forall_mem_cons] at unclosed
      exact ih (tenancy.step stepped).1 (tenancy.permitted permitted stepped unclosed.1)
        unclosed.2 reached

/-- Where `epoll_ctl` succeeds, whatever can come to the handler comes back, but for the end of a
handler that is alone on its socket. -/
theorem Tenancy.comes_iff (tenancy : attached.Tenancy object sockfd others)
    (permitted : attached.handler.alive = true → attached.Permitted) (incident : Incident) :
    (∃ next, attached.live incident = some next) ↔
      attached.Due incident ∧ (attached.Spares incident ∨ ¬ attached.Alone) := by
  cases incident with
  | notice notice =>
      constructor
      · rintro ⟨next, stepped⟩
        obtain ⟨has, answered⟩ := tenancy.due stepped
        refine ⟨⟨has, answered⟩, ?_⟩
        cases tenancy.outcome has answered with
        | stays _ _ spares => exact .inl spares
        | goes _ _ _ _ _ _ company => exact .inr company
        | ends none => cases stepped.symm.trans none
      · rintro ⟨⟨has, answered⟩, outlook⟩
        cases tenancy.outcome has answered with
        | stays next stepped => exact ⟨next, stepped⟩
        | goes next stepped => exact ⟨next, stepped⟩
        | ends _ unspared alone =>
            have alive := (tenancy.live_of_has has).working.alive
            exact absurd (alone (permitted alive)) (outlook.resolve_left unspared)
  | elsewhere call =>
      constructor
      · rintro ⟨next, stepped⟩
        exact ⟨tenancy.due stepped, .inl trivial⟩
      · rintro ⟨foreign, -⟩
        have foreign : attached.foreign call = true := foreign
        simp only [Attached.live, Attached.step, foreign, if_true, Exec.returns,
          tenancy.ready.run_call]
        cases attached.reactor.outcome call with
        | mk err reactor => cases err <;> exact ⟨_, rfl⟩
  | closed fd => exact iff_of_true ⟨_, rfl⟩ ⟨trivial, .inl trivial⟩

end Steps

/-! The construction, and the life that follows. -/

section Life

variable {attached : Attached} {object address : Nat} {socket : ServerSocket}
  {reactor : SocketReactor}

theorem tenancy_of_construct (ready : reactor.Ready none)
    (fresh : ∀ observer ∈ reactor.registered socket.sockfd, observer.object ≠ some object)
    (constructed : construct object address socket reactor = some attached) :
    attached.Tenancy object socket.sockfd reactor.registered ∧
      attached.handler.alive = true := by
  obtain ⟨steady, handler⟩ := steady_of_construct ready fresh constructed
  have alive := steady.live.working.alive
  have follows := steady.follows
  rw [← demands_of_live steady.live] at follows
  have order : InOrder attached.handler := handler ▸ inOrder_construct socket
  let start : Attached :=
    ⟨object, address, EchoServiceHandler.construct socket true, reactor.opened socket.sockfd⟩
  have constructed : start.advance start.handler (start.carryOut start.handler.requests) =
      some attached := constructed
  rw [advance] at constructed
  split at constructed
  case h_2 => contradiction
  case h_1 next ran =>
    obtain ⟨kept, entered⟩ := entered_of_carryOut (ready.opened socket.sockfd) ran
    cases constructed
    refine ⟨⟨rfl, rfl, kept, fun _ => steady.live, order, follows, ready.distinct, ?_, ?_⟩, alive⟩
    · exact fun interest member => fresh _ member rfl
    · intro fd observer apart
      have changed : observer ∈ next.registered fd ↔
          observer ∈ start.entered reactor.registered start.handler.requests fd := by
        rw [entered]
        exact Iff.rfl
      exact changed.trans (@mem_entered_of_not_own start _ _ _ ready.distinct apart _)

/-- A byte comes in, somebody else registers, the byte goes out, and the peer closes. -/
theorem reached_of_closed_peer :
    let reactor := SocketReactor.empty true (fun _ => true) Epoll.obliging
    let incidents := [Incident.notice (.traffic (.readable [.ok [7]])),
      .elsewhere (.add ⟨200, 3⟩ (.onSocket 9 .readable 0)),
      .notice (.traffic (.writable [.ok 1])), .notice (.traffic (.readable [.ok []]))]
    ∃ attached last, construct 0 100 ⟨3, false⟩ reactor = some attached ∧
      Runs.exec live attached incidents = some last ∧
      last.handler.alive = false ∧ last.handler.sent = [7] := by
  intro reactor incidents
  have ran : ((construct 0 100 ⟨3, false⟩ reactor).bind fun attached =>
      (Runs.exec live attached incidents).map fun last =>
        (last.handler.alive, last.handler.sent)) = some (false, [7]) := by decide +kernel
  obtain ⟨attached, constructed, ran⟩ := Option.bind_eq_some_iff.mp ran
  obtain ⟨last, reached, ended⟩ := Option.map_eq_some_iff.mp ran
  obtain ⟨dead, sent⟩ := Prod.mk.inj ended
  exact ⟨attached, last, constructed, reached, dead, sent⟩

/-- At every point of a handler's life, and past its end, the reactor has the observers that
it would have without the handler, and those that the fill levels of a live handler demand.
Where `epoll_ctl` succeeds and nobody else closes the handler's descriptor, whatever can come to
the handler comes back, but for the end of a handler that is alone on its socket. -/
theorem tenancy_over_lifetime (object address : Nat) (socket : ServerSocket)
    (reactor : SocketReactor) (ready : reactor.Ready none)
    (fresh : ∀ observer ∈ reactor.registered socket.sockfd, observer.object ≠ some object)
    (incidents : List Incident) :
    (∀ attached, construct object address socket reactor = some attached →
      ∀ last, Runs.exec live attached incidents = some last →
        ∀ fd observer, observer ∈ last.reactor.registered fd ↔
          observer ∈ incidents.foldl Incident.entered reactor.registered fd ∨
            fd = socket.sockfd ∧ ∃ interest, demands last.handler interest = true ∧
              observer = interest.observer object) ∧
    ((∀ incident ∈ incidents, incident ≠ .closed socket.sockfd) →
      Epoll.Willing reactor.pollSet.epoll.refusal →
      ∃ attached, construct object address socket reactor = some attached ∧
        ∀ last, Runs.exec live attached incidents = some last →
          ∀ incident, (∃ next, last.live incident = some next) ↔
            last.Due incident ∧ (last.Spares incident ∨ ¬ last.Alone)) := by
  constructor
  · intro attached constructed last reached fd observer
    exact ((tenancy_of_construct ready fresh constructed).1.exec reached).registered
  · intro unclosed willing
    obtain ⟨attached, constructed, permitted⟩ :=
      construct_of_willing object address socket ready willing
    refine ⟨attached, constructed, ?_⟩
    intro last reached incident
    have start := (tenancy_of_construct ready fresh constructed).1
    exact (start.exec reached).comes_iff
      (start.permitted_exec (fun _ => permitted) unclosed reached) incident

/-- The closed peer's handler leaves its reactor to the other observer. -/
theorem tenancy_over_lifetime_of_closed_peer :
    let reactor := SocketReactor.empty true (fun _ => true) Epoll.obliging
    let incidents := [Incident.notice (.traffic (.readable [.ok [7]])),
      .elsewhere (.add ⟨200, 3⟩ (.onSocket 9 .readable 0)),
      .notice (.traffic (.writable [.ok 1])), .notice (.traffic (.readable [.ok []]))]
    ∃ attached last, construct 0 100 ⟨3, false⟩ reactor = some attached ∧
      Runs.exec live attached incidents = some last ∧
      (∀ observer, observer ∈ last.reactor.registered 3 ↔
        observer = Observer.onSocket 9 .readable 0) ∧
      ∀ incident, (∃ next, last.live incident = some next) ↔
        last.Due incident ∧ (last.Spares incident ∨ ¬ last.Alone) := by
  intro reactor incidents
  obtain ⟨attached, last, constructed, reached, dead, _⟩ := reached_of_closed_peer
  have tenancy := tenancy_over_lifetime 0 100 ⟨3, false⟩ reactor (SocketReactor.ready_empty _ _)
    (by simp [reactor, SocketReactor.registered, SocketReactor.empty]) incidents
  obtain ⟨other, same, comes⟩ := tenancy.2 (by simp [incidents]) Epoll.willing_obliging
  cases constructed.symm.trans same
  refine ⟨attached, last, constructed, reached, ?_, comes last reached⟩
  intro observer
  have others : incidents.foldl Incident.entered reactor.registered 3 =
      [Observer.onSocket 9 .readable 0] := by decide +kernel
  rw [tenancy.1 attached constructed last reached 3 observer, others, List.mem_singleton]
  simp [demands, dead]

/-- A handler is alive at the end of exactly the runs in which `recv` always gave it data,
`send` never failed, the shutdown notification did not come, and the reactor threw at none of
the calls of its slots. -/
theorem alive_iff_spared (object address : Nat) (socket : ServerSocket)
    (reactor : SocketReactor) (ready : reactor.Ready none)
    (fresh : ∀ observer ∈ reactor.registered socket.sockfd, observer.object ≠ some object)
    (incidents : List Incident) :
    ∀ attached, construct object address socket reactor = some attached →
      ∀ last, Runs.exec live attached incidents = some last →
        (last.handler.alive = true ↔ Runs.Each live Spares attached incidents) := by
  intro attached constructed last reached
  obtain ⟨start, alive⟩ := tenancy_of_construct ready fresh constructed
  have tenant : ∃ others, attached.Tenancy object socket.sockfd others := ⟨_, start⟩
  refine @Runs.holds_iff_each _ _ live (fun attached => attached.handler.alive = true)
    (fun attached => (∃ others, attached.Tenancy object socket.sockfd others) ∧
      attached.handler.alive = true)
    (fun attached => (∃ others, attached.Tenancy object socket.sockfd others) ∧
      ¬ attached.handler.alive = true) Spares ?_ ?_ ?_ _ _ _ ⟨tenant, alive⟩ reached ?_ ?_
  · rintro attached incident next ⟨⟨others, tenancy⟩, alive⟩ stepped spares
    obtain ⟨kept, -, lives⟩ := tenancy.step stepped
    exact ⟨⟨_, kept⟩, lives.mpr ⟨alive, spares⟩⟩
  · rintro attached incident next ⟨⟨others, tenancy⟩, alive⟩ stepped unspared
    obtain ⟨kept, -, lives⟩ := tenancy.step stepped
    exact ⟨⟨_, kept⟩, fun alive => unspared (lives.mp alive).2⟩
  · rintro attached incident next ⟨⟨others, tenancy⟩, dead⟩ stepped
    obtain ⟨kept, -, lives⟩ := tenancy.step stepped
    exact ⟨⟨_, kept⟩, fun alive => dead (lives.mp alive).1⟩
  · exact fun kept => kept.2
  · exact fun kept => kept.2

theorem alive_iff_spared_of_closed_peer :
    let reactor := SocketReactor.empty true (fun _ => true) Epoll.obliging
    let incidents := [Incident.notice (.traffic (.readable [.ok [7]])),
      .elsewhere (.add ⟨200, 3⟩ (.onSocket 9 .readable 0)),
      .notice (.traffic (.writable [.ok 1])), .notice (.traffic (.readable [.ok []]))]
    ∃ attached last, construct 0 100 ⟨3, false⟩ reactor = some attached ∧
      Runs.exec live attached incidents = some last ∧ last.handler.alive = false ∧
      ¬ Runs.Each live Spares attached incidents := by
  intro reactor incidents
  obtain ⟨attached, last, constructed, reached, dead, _⟩ := reached_of_closed_peer
  have spared := alive_iff_spared 0 100 ⟨3, false⟩ reactor (SocketReactor.ready_empty _ _)
    (by simp [reactor, SocketReactor.registered, SocketReactor.empty]) incidents attached
    constructed last reached
  exact ⟨attached, last, constructed, reached, dead, mt spared.mpr (Bool.eq_false_iff.mp dead)⟩

/-- In every life of a handler what goes out is what has come in, in the same order, less the
bytes that a full `_fifoOut` makes it lose. -/
theorem echoes_in_order (object address : Nat) (socket : ServerSocket)
    (reactor : SocketReactor) (ready : reactor.Ready none)
    (fresh : ∀ observer ∈ reactor.registered socket.sockfd, observer.object ≠ some object)
    (incidents : List Incident) :
    ∀ attached, construct object address socket reactor = some attached →
      ∀ last, Runs.exec live attached incidents = some last → InOrder last.handler := by
  intro attached constructed last reached
  exact ((tenancy_of_construct ready fresh constructed).1.exec reached).order

theorem echoes_in_order_of_closed_peer :
    let reactor := SocketReactor.empty true (fun _ => true) Epoll.obliging
    let incidents := [Incident.notice (.traffic (.readable [.ok [7]])),
      .elsewhere (.add ⟨200, 3⟩ (.onSocket 9 .readable 0)),
      .notice (.traffic (.writable [.ok 1])), .notice (.traffic (.readable [.ok []]))]
    ∃ attached last, construct 0 100 ⟨3, false⟩ reactor = some attached ∧
      Runs.exec live attached incidents = some last ∧ last.handler.sent = [7] ∧
      InOrder last.handler := by
  intro reactor incidents
  obtain ⟨attached, last, constructed, reached, _, sent⟩ := reached_of_closed_peer
  refine ⟨attached, last, constructed, reached, sent, ?_⟩
  exact echoes_in_order 0 100 ⟨3, false⟩ reactor (SocketReactor.ready_empty _ _)
    (by simp [reactor, SocketReactor.registered, SocketReactor.empty]) incidents attached
    constructed last reached

end Life

end Attached

end EchoServiceHandler

end TestReactor
