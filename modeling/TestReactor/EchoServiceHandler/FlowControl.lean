import Mathlib.Logic.Function.Basic
import TestReactor.EchoServiceHandler.Attached
import TestReactor.EchoServiceHandler.Spec
import TestReactor.SocketReactor.Ready

namespace TestReactor

/-! The observers of a handler follow the fill levels of its FIFOs. -/

namespace EchoServiceHandler

open BasicFIFOBuffer (Emission)

/-! What the signals of a FIFO ask for. -/

/-- The calls that turn the registration for `interest` from `before` to `after`. -/
def toggle (interest : Interest) (before after : Bool) : List Request :=
  if before = after then [] else [⟨after, interest⟩]

section Signals

variable {fifo : BasicFIFOBuffer.State UInt8} {usedBefore : Nat}

theorem slotsIn_edges (within : usedBefore ≤ fifo.size) (inside : fifo.used ≤ fifo.size) :
    (fifo.edges usedBefore).filterMap slotsIn =
      toggle .readable (decide (usedBefore < fifo.size)) (!fifo.isFull) := by
  have full : fifo.isFull = decide (¬ fifo.used < fifo.size) :=
    decide_eq_decide.mpr (by omega)
  rw [full]
  simp only [BasicFIFOBuffer.State.edges, BasicFIFOBuffer.State.edge, toggle]
  by_cases room : usedBefore < fifo.size <;> by_cases room' : fifo.used < fifo.size <;>
    simp [room, room', List.filterMap_append] <;> grind [slotsIn, onFIFOInWritable]

theorem slotsOut_edges :
    (fifo.edges usedBefore).filterMap slotsOut =
      toggle .writable (decide (0 < usedBefore)) (!fifo.isEmpty) := by
  have empty : fifo.isEmpty = decide (¬ 0 < fifo.used) :=
    decide_eq_decide.mpr (by omega)
  rw [empty]
  simp only [BasicFIFOBuffer.State.edges, BasicFIFOBuffer.State.edge, toggle]
  by_cases some : 0 < usedBefore <;> by_cases some' : 0 < fifo.used <;>
    simp [some, some', List.filterMap_append] <;> grind [slotsOut, onFIFOOutReadable]

end Signals

structure Live (handler : State) : Prop where
  working : Working handler
  input : handler.fifoIn.notify = true
  output : handler.fifoOut.notify = true

theorem live_construct (socket : ServerSocket) : Live (construct socket true) :=
  ⟨working_construct socket, rfl, rfl⟩

section Callbacks

variable {handler : State} {data : List UInt8}

theorem requests_withIn (handler : State) (fifo : BasicFIFOBuffer.State UInt8)
    (emitted : fifo.emitted = handler.fifoIn.emitted) (notify : fifo.notify = true)
    (size : fifo.size = handler.fifoIn.size) (before : handler.fifoIn.used ≤ handler.fifoIn.size)
    (after : fifo.used ≤ fifo.size) :
    (handler.withIn (fifo.notified handler.fifoIn.used)).requests =
      handler.requests ++ toggle .readable (!handler.fifoIn.isFull) (!fifo.isFull) := by
  have room : (!handler.fifoIn.isFull) = decide (handler.fifoIn.used < fifo.size) := by
    rw [BasicFIFOBuffer.State.isFull, ← decide_not, size]
    exact decide_eq_decide.mpr (by omega)
  rw [room, ← slotsIn_edges (size ▸ before) after]
  simp only [State.withIn, BasicFIFOBuffer.State.notified, notify, if_true, emitted,
    List.drop_left]

theorem requests_withOut (handler : State) (fifo : BasicFIFOBuffer.State UInt8)
    (emitted : fifo.emitted = handler.fifoOut.emitted) (notify : fifo.notify = true) :
    (handler.withOut (fifo.notified handler.fifoOut.used)).requests =
      handler.requests ++ toggle .writable (!handler.fifoOut.isEmpty) (!fifo.isEmpty) := by
  have some : (!handler.fifoOut.isEmpty) = decide (0 < handler.fifoOut.used) := by
    rw [BasicFIFOBuffer.State.isEmpty, ← decide_not]
    exact decide_eq_decide.mpr (by omega)
  rw [some, ← slotsOut_edges]
  simp only [State.withOut, BasicFIFOBuffer.State.notified, notify, if_true, emitted,
    List.drop_left]

theorem notify_put (fifo : BasicFIFOBuffer.State UInt8) (data : List UInt8) :
    (fifo.put data).notify = fifo.notify := by
  unfold BasicFIFOBuffer.State.put
  split <;> rfl

theorem requests_put (handler : State) (notify : handler.fifoOut.notify = true)
    (data : List UInt8) :
    (handler.withOut (handler.fifoOut.put data)).requests =
      handler.requests ++ toggle .writable (!handler.fifoOut.isEmpty)
        (!(handler.fifoOut.put data).isEmpty) := by
  unfold BasicFIFOBuffer.State.put
  split
  case isTrue => simp [State.withOut, toggle]
  case isFalse => exact requests_withOut handler _ rfl notify

theorem requests_echoed (live : Live handler)
    (room : handler.fifoIn.used + data.length ≤ handler.fifoIn.size) :
    (handler.echoed data).requests = handler.requests ++
      (toggle .readable (!handler.fifoIn.isFull) (!(handler.arrived data).isFull) ++
        toggle .writable (!handler.fifoOut.isEmpty) (!(handler.echoed data).fifoOut.isEmpty) ++
        toggle .readable (!(handler.arrived data).isFull)
          (!(handler.echoed data).fifoIn.isFull)) := by
  have input := live.working.input
  have arrived := input.arriving room
  have drained := arrived.drained (handler.written data).length (handler.arrived data).used
  have entering := requests_withIn handler (handler.fifoIn.compacted.appended data) rfl live.input
    ((BasicFIFOBuffer.appended_size _ _).trans (BasicFIFOBuffer.compacted_size _))
    input.sound.used_le arrived.sound.used_le
  have passing := requests_put (handler.receiving data) live.output (handler.written data)
  have leaving := requests_withIn
    ((handler.receiving data).withOut (handler.fifoOut.put (handler.written data)))
    ((handler.arrived data).drained (handler.written data).length) rfl live.input rfl
    arrived.sound.used_le drained.sound.used_le
  calc (handler.echoed data).requests
      = ((handler.receiving data).withOut
            (handler.fifoOut.put (handler.written data))).requests ++
          toggle .readable (!(handler.arrived data).isFull)
            (!(handler.echoed data).fifoIn.isFull) := leaving
    _ = (handler.receiving data).requests ++
          toggle .writable (!handler.fifoOut.isEmpty) (!(handler.echoed data).fifoOut.isEmpty) ++
          toggle .readable (!(handler.arrived data).isFull)
            (!(handler.echoed data).fifoIn.isFull) := congrArg (· ++ _) passing
    _ = _ := by
      rw [show (handler.receiving data).requests = _ from entering]
      simp only [List.append_assoc]
      rfl

theorem requests_flushed (live : Live handler) (count : Nat) :
    (handler.flushed count).requests = handler.requests ++
      toggle .writable (!handler.fifoOut.isEmpty) (!(handler.flushed count).fifoOut.isEmpty) :=
  requests_withOut handler (handler.fifoOut.compacted.drained count) rfl live.output

theorem Live.next {next : State} {callback : Callback} (live : Live handler)
    (moves : Moves handler callback next) : Live next := by
  refine ⟨live.working.next moves, ?_, ?_⟩
  · cases moves with
    | echoed data nonempty room => exact live.input
    | flushed count positive enough => exact live.input
  · cases moves with
    | echoed data nonempty room => exact (notify_put _ _).trans live.output
    | flushed count positive enough => exact live.output

end Callbacks

/-! What is asked for, and what is registered then. -/

def wanted (handler : State) : Interest → Bool
  | .readable => !handler.fifoIn.isFull
  | .writable => !handler.fifoOut.isEmpty
  | .shutdown => true

namespace Attached

variable {attached : Attached} {registry : Registry Int Observer}

def entered (attached : Attached) (registry : Registry Int Observer)
    (requests : List Request) : Registry Int Observer :=
  requests.foldl (fun registry request => (attached.call request).enter registry) registry

/-- The handler's observers are those of the interests with a flag. -/
def Matches (attached : Attached) (registry : Registry Int Observer)
    (flags : Interest → Bool) : Prop :=
  ∀ interest, attached.observer interest ∈ registry attached.socket.sockfd ↔
    flags interest = true

theorem observer_inj {interest other : Interest}
    (same : attached.observer interest = attached.observer other) : interest = other := by
  cases interest <;> cases other <;>
    simp [observer, Interest.observer, Observer.onSocket, Interest.notification] at same ⊢

theorem entered_append (first second : List Request) :
    attached.entered registry (first ++ second) =
      attached.entered (attached.entered registry first) second :=
  List.foldl_append

theorem distinct_entered (attached : Attached) (distinct : registry.Distinct)
    (requests : List Request) :
    (attached.entered registry requests).Distinct := by
  induction requests generalizing registry with
  | nil => exact distinct
  | cons request rest ih => exact ih (SocketReactor.distinct_enter distinct _)

theorem Matches.toggle {flags : Interest → Bool} (follows : attached.Matches registry flags)
    (distinct : registry.Distinct) (interest : Interest) (after : Bool) :
    attached.Matches (attached.entered registry (toggle interest (flags interest) after))
      (Function.update flags interest after) := by
  by_cases same : flags interest = after
  · rw [EchoServiceHandler.toggle, if_pos same, ← same, Function.update_eq_self]
    exact follows
  · rw [EchoServiceHandler.toggle, if_neg same]
    intro other
    by_cases own : other = interest
    · subst own
      rw [Function.update_self]
      cases after with
      | true => exact iff_of_true Registry.mem_add_self rfl
      | false => exact iff_of_false (Registry.not_mem_remove distinct) Bool.false_ne_true
    · have different : attached.observer other ≠ attached.observer interest :=
        mt observer_inj own
      rw [Function.update_of_ne own, ← follows other]
      cases after with
      | true => exact Registry.mem_add_of_ne different
      | false => exact Registry.mem_remove_of_ne different

theorem interest_of_mem_toggle {interest : Interest} {before after : Bool} {request : Request}
    (member : request ∈ toggle interest before after) : request.interest = interest := by
  rw [EchoServiceHandler.toggle] at member
  split at member
  · contradiction
  · rw [List.mem_singleton.mp member]

/-- What a callback asks for brings the flags to where its FIFOs are then. -/
theorem follows_of_moves (attached : Attached) {handler next : State} {callback : Callback}
    (live : Live handler) (moves : Moves handler callback next) :
    ∃ requests, next.requests = handler.requests ++ requests ∧
      (∀ request ∈ requests, request.interest ≠ .shutdown) ∧
      ∀ registry : Registry Int Observer, registry.Distinct →
        attached.Matches registry (wanted handler) →
        attached.Matches (attached.entered registry requests) (wanted next) := by
  cases moves with
  | echoed data nonempty room =>
      refine ⟨_, requests_echoed live room, ?_, ?_⟩
      · intro request member
        rcases List.mem_append.mp member with first | last
        · rcases List.mem_append.mp first with arrived | written
          · simp [interest_of_mem_toggle arrived]
          · simp [interest_of_mem_toggle written]
        · simp [interest_of_mem_toggle last]
      intro registry distinct follows
      have arrived := follows.toggle distinct .readable (!(handler.arrived data).isFull)
      have distinct := distinct_entered attached distinct
        (EchoServiceHandler.toggle .readable (wanted handler .readable)
          (!(handler.arrived data).isFull))
      have written := arrived.toggle distinct .writable (!(handler.echoed data).fifoOut.isEmpty)
      have distinct := distinct_entered attached distinct
        (EchoServiceHandler.toggle .writable (wanted handler .writable)
          (!(handler.echoed data).fifoOut.isEmpty))
      have drained := written.toggle distinct .readable (!(handler.echoed data).fifoIn.isFull)
      have flags : wanted (handler.echoed data) = Function.update (Function.update
          (Function.update (wanted handler) .readable (!(handler.arrived data).isFull))
            .writable (!(handler.echoed data).fifoOut.isEmpty))
              .readable (!(handler.echoed data).fifoIn.isFull) := by
        funext interest
        cases interest <;> rfl
      rw [entered_append, entered_append, flags]
      exact drained
  | flushed count positive enough =>
      refine ⟨_, requests_flushed live count, ?_, ?_⟩
      · intro request member
        simp [interest_of_mem_toggle member]
      intro registry distinct follows
      have sent := follows.toggle distinct .writable (!(handler.flushed count).fifoOut.isEmpty)
      have flags : wanted (handler.flushed count) = Function.update (wanted handler)
          .writable (!(handler.flushed count).fifoOut.isEmpty) := by
        funext interest
        cases interest <;> rfl
      rw [flags]
      exact sent

/-! What the reactor does with the requests. -/

variable {held : Option Nat} {reactor : SocketReactor}

theorem entered_of_carryOut (ready : reactor.Ready held) {requests : List Request}
    {next : SocketReactor} (ran : (attached.carryOut requests).run reactor = .ok () next) :
    next.Ready held ∧ next.registered = attached.entered reactor.registered requests := by
  induction requests generalizing reactor with
  | nil =>
      cases ran
      exact ⟨ready, rfl⟩
  | cons request rest ih =>
      rw [carryOut, Exec.forEach, EStateM.run_bind, ready.run_call] at ran
      have entered := ready.registered_outcome (attached.call request)
      have kept := ready.outcome (attached.call request)
      cases outcome : reactor.outcome (attached.call request) with
      | mk err middle =>
          rw [outcome] at ran entered kept
          cases err with
          | none =>
              obtain ⟨ready, registered⟩ := ih kept ran
              exact ⟨ready, registered.trans (congrArg (attached.entered · rest) entered)⟩
          | some errno => contradiction

def Accompanied (attached : Attached) :
    Registry Int Observer → List Request → Prop
  | _, [] => True
  | registry, request :: rest =>
      (request.adds = true ∨
        registry attached.socket.sockfd ≠ [attached.observer request.interest]) ∧
      attached.Accompanied ((attached.call request).enter registry) rest

theorem accompanied_of_other {other : Observer} {requests : List Request}
    (member : other ∈ registry attached.socket.sockfd)
    (apart : ∀ request ∈ requests, other ≠ attached.observer request.interest) :
    attached.Accompanied registry requests := by
  induction requests generalizing registry with
  | nil => trivial
  | cons request rest ih =>
      rw [List.forall_mem_cons] at apart
      refine ⟨.inr ?_, ih ?_ apart.2⟩
      · intro only
        rw [only, List.mem_singleton] at member
        exact apart.1 member
      · obtain ⟨adds, interest⟩ := request
        cases adds with
        | true => exact (Registry.mem_add_of_ne apart.1).mpr member
        | false => exact (Registry.mem_remove_of_ne apart.1).mpr member

theorem spares_of_accompanied {request : Request} {rest : List Request}
    (accompanied : attached.Accompanied reactor.registered (request :: rest)) :
    reactor.SparesLast (attached.call request) := by
  obtain ⟨adds, interest⟩ := request
  cases adds with
  | true => trivial
  | false => exact accompanied.1.resolve_left Bool.false_ne_true

theorem sockfd_call (attached : Attached) (request : Request) :
    (attached.call request).sockfd = attached.socket.sockfd := by
  rw [call]
  split <;> rfl

theorem carryOut_of_willing (ready : reactor.Ready held)
    (willing : Epoll.Willing reactor.pollSet.epoll.refusal)
    (unclosed : reactor.pollSet.epoll.closed attached.socket.sockfd = false)
    {requests : List Request}
    (accompanied : attached.Accompanied reactor.registered requests) :
    ∃ next, (attached.carryOut requests).run reactor = .ok () next ∧
      Epoll.Willing next.pollSet.epoll.refusal ∧
      next.pollSet.epoll.closed attached.socket.sockfd = false := by
  induction requests generalizing reactor with
  | nil => exact ⟨reactor, rfl, willing, unclosed⟩
  | cons request rest ih =>
      have spares := spares_of_accompanied accompanied
      have fd := sockfd_call attached request
      have returns := SocketReactor.outcome_of_willing willing (fd ▸ unclosed) spares
      have open_ := SocketReactor.unclosed_outcome unclosed fun _ => spares
      have kept := ready.outcome (attached.call request)
      have entered := ready.registered_outcome (attached.call request)
      have refusal := SocketReactor.refusal_outcome reactor (attached.call request)
      rw [carryOut, Exec.forEach, EStateM.run_bind, ready.run_call]
      cases outcome : reactor.outcome (attached.call request) with
      | mk err middle =>
          rw [outcome] at returns open_ kept entered refusal
          cases returns
          exact ih kept (refusal ▸ willing) open_ (entered ▸ accompanied.2)

theorem entered_of_locked (ready : reactor.Ready none) {id : Nat}
    (allocated : id < reactor.cellCount) {requests : List Request} {next : SocketReactor}
    (ran : (scopedLock (SocketReactor.observerMutex id) (attached.carryOut requests)).run
      reactor = .ok () next) :
    next.Ready none ∧ next.registered = attached.entered reactor.registered requests := by
  rw [run_scopedLock_of_lockable _ _ (ready.idle.recursive_cell id)] at ran
  cases last : (attached.carryOut requests).run ((SocketReactor.observerMutex id).set
      ((SocketReactor.observerMutex id).get reactor).enter reactor) with
  | ok _ middle =>
      obtain ⟨kept, entered⟩ := entered_of_carryOut (ready.locked allocated) last
      rw [last, releasing_ok] at ran
      cases ran
      rw [SocketReactor.registered_locked] at entered ⊢
      exact ⟨kept.left, entered⟩
  | error stop middle =>
      rw [last] at ran
      cases stop <;> contradiction

theorem locked_of_willing (ready : reactor.Ready none)
    (willing : Epoll.Willing reactor.pollSet.epoll.refusal)
    (unclosed : reactor.pollSet.epoll.closed attached.socket.sockfd = false) {id : Nat}
    (allocated : id < reactor.cellCount) {requests : List Request}
    (accompanied : attached.Accompanied reactor.registered requests) :
    ∃ next, (scopedLock (SocketReactor.observerMutex id) (attached.carryOut requests)).run
      reactor = .ok () next ∧ Epoll.Willing next.pollSet.epoll.refusal ∧
      next.pollSet.epoll.closed attached.socket.sockfd = false := by
  let entered := (SocketReactor.observerMutex id).set
    ((SocketReactor.observerMutex id).get reactor).enter reactor
  have same : entered.registered = reactor.registered := SocketReactor.registered_locked _ _ _
  obtain ⟨last, ran, kept⟩ := @carryOut_of_willing attached _ entered (ready.locked allocated)
    willing unclosed requests (same ▸ accompanied)
  refine ⟨(SocketReactor.observerMutex id).set
    ((SocketReactor.observerMutex id).get last).leave last, ?_, kept⟩
  rw [run_scopedLock_of_lockable _ _ (ready.idle.recursive_cell id), ran, releasing_ok]

structure Steady (attached : Attached) : Prop where
  live : Live attached.handler
  ready : attached.reactor.Ready none
  follows : attached.Matches attached.reactor.registered (wanted attached.handler)

theorem socket_of_moves {handler next : State} {callback : Callback}
    (moves : Moves handler callback next) : next.socket = handler.socket := by
  cases moves with
  | echoed data nonempty room => rfl
  | flushed count positive enough => rfl

theorem has_of_moves {next : State} {callback : Callback} (steady : attached.Steady)
    (moves : Moves attached.handler callback next) : attached.Has callback.interest := by
  apply (steady.follows callback.interest).mpr
  cases moves with
  | echoed data nonempty room =>
      have long := List.length_pos_iff.mpr nonempty
      have room : attached.handler.fifoIn.isFull = false := decide_eq_false (by omega)
      show (!attached.handler.fifoIn.isFull) = true
      rw [room]
      rfl
  | flushed count positive enough =>
      have some : attached.handler.fifoOut.isEmpty = false := decide_eq_false (by omega)
      show (!attached.handler.fifoOut.isEmpty) = true
      rw [some]
      rfl

theorem allocated_of_listing {n id : Nat} {observer : Observer} (ready : reactor.Ready held)
    (listed : reactor.listing attached.socket observer = some (n, id)) :
    id < reactor.cellCount :=
  ready.sound.listed n id (SocketReactor.mem_of_find (SocketReactor.listing_eq_some.mp listed).2)

theorem step_callback {callback : Callback} {next : State} {n id : Nat} {requests : List Request}
    (listed : attached.reactor.listing attached.socket
      (attached.observer callback.interest) = some (n, id))
    (stepped : EchoServiceHandler.step attached.handler callback = some next)
    (asked : next.requests = attached.handler.requests ++ requests) :
    attached.step (.callback callback) = attached.advance next
      (scopedLock (SocketReactor.observerMutex id) (attached.carryOut requests)) := by
  simp only [step, cell, listed, Option.map_some, stepped, asked, List.drop_left,
    Option.bind_eq_bind, Option.bind_some]

theorem Steady.callback {next : Attached} (steady : attached.Steady) {callback : Callback}
    (stepped : attached.step (.callback callback) = some next) :
    next.Steady ∧ EchoServiceHandler.step attached.handler callback = some next.handler := by
  cases listed : attached.reactor.listing attached.socket
      (attached.observer callback.interest) with
  | none => simp [step, cell, listed] at stepped
  | some found =>
      obtain ⟨n, id⟩ := found
      cases moved : EchoServiceHandler.step attached.handler callback with
      | none => simp [step, cell, listed, moved] at stepped
      | some handler =>
          have moves := moves_of_step steady.live.working moved
          obtain ⟨requests, asked, -, follows⟩ := follows_of_moves attached steady.live moves
          rw [step_callback listed moved asked, advance] at stepped
          split at stepped
          case h_1 reactor ran =>
            obtain ⟨ready, entered⟩ := entered_of_locked steady.ready
              (allocated_of_listing steady.ready listed) ran
            cases stepped
            refine ⟨⟨steady.live.next moves, ready, ?_⟩, rfl⟩
            intro interest
            have kept := follows _ steady.ready.distinct steady.follows interest
            rw [← entered] at kept
            simpa only [Attached.socket, Attached.observer, socket_of_moves moves] using kept
          case h_2 => contradiction

theorem step_elsewhere (ready : attached.reactor.Ready none) {call : SocketReactor.Call}
    {next : Attached} (stepped : attached.step (.elsewhere call) = some next) :
    attached.foreign call = true ∧
      next = { attached with reactor := (attached.reactor.outcome call).2 } := by
  cases foreign : attached.foreign call with
  | false => simp [step, foreign] at stepped
  | true =>
      simp only [step, foreign, if_true, Exec.returns, ready.run_call] at stepped
      cases outcome : attached.reactor.outcome call with
      | mk err reactor =>
          rw [outcome] at stepped
          cases err <;> exact ⟨rfl, (Option.some.inj stepped).symm⟩

/-- Nobody else removes an observer of the handler, so that the descriptor stays open. -/
theorem spares_of_foreign {call : SocketReactor.Call} (foreign : attached.foreign call = true)
    (same : call.sockfd = attached.socket.sockfd) {interest : Interest}
    (has : attached.Has interest) : attached.reactor.SparesLast call := by
  cases call with
  | add socket observer => trivial
  | remove socket observer =>
      intro only
      have same : socket.sockfd = attached.socket.sockfd := same
      rw [Has, ← same, only, List.mem_singleton] at has
      have own : (attached.observer interest).object = some attached.object := rfl
      simp [Attached.foreign, ← has, own] at foreign

theorem Steady.elsewhere {next : Attached} (steady : attached.Steady)
    {call : SocketReactor.Call} (stepped : attached.step (.elsewhere call) = some next) :
    next.Steady ∧ next.handler = attached.handler := by
  have entered := steady.ready.registered_outcome call
  obtain ⟨foreign, rfl⟩ := step_elsewhere steady.ready stepped
  refine ⟨⟨steady.live, steady.ready.outcome call, ?_⟩, rfl⟩
  intro interest
  have own : (attached.observer interest).object = some attached.object := rfl
  rw [← steady.follows interest, entered]
  cases call with
  | add socket observer =>
      apply Registry.mem_add_of_ne
      rintro (same : attached.observer interest = observer)
      simp [Attached.foreign, ← same, own] at foreign
  | remove socket observer =>
      apply Registry.mem_remove_of_ne
      rintro (same : attached.observer interest = observer)
      simp [Attached.foreign, ← same, own] at foreign

theorem Steady.next {next : Attached} {event : Event} (steady : attached.Steady)
    (stepped : attached.step event = some next) : next.Steady := by
  cases event with
  | callback callback => exact (steady.callback stepped).1
  | elsewhere call => exact (steady.elsewhere stepped).1

theorem steady_of_construct {object address : Nat} {socket : ServerSocket}
    (ready : reactor.Ready none)
    (fresh : ∀ observer ∈ reactor.registered socket.sockfd, observer.object ≠ some object)
    (constructed : construct object address socket reactor = some attached) :
    attached.Steady ∧ attached.handler = EchoServiceHandler.construct socket true := by
  let start : Attached :=
    ⟨object, address, EchoServiceHandler.construct socket true, reactor.opened socket.sockfd⟩
  have live := live_construct socket
  have none : start.Matches reactor.registered fun _ => false := by
    intro interest
    refine iff_of_false ?_ Bool.false_ne_true
    intro member
    exact fresh _ member rfl
  have readable := none.toggle ready.distinct .readable true
  have both := readable.toggle (distinct_entered start ready.distinct _) .shutdown true
  have flags : wanted start.handler = Function.update
      (Function.update (fun _ => false) .readable true) .shutdown true := by
    funext interest
    cases interest with
    | readable =>
        have room : start.handler.fifoIn.isFull = false := by
          rw [BasicFIFOBuffer.State.isFull, live.working.input.size]
          rfl
        show (!start.handler.fifoIn.isFull) = true
        rw [room]
        rfl
    | writable | shutdown => rfl
  have constructed : start.advance start.handler (start.carryOut start.handler.requests) =
      some attached := constructed
  rw [advance] at constructed
  split at constructed
  case h_1 next ran =>
    obtain ⟨kept, entered⟩ := entered_of_carryOut (ready.opened socket.sockfd) ran
    cases constructed
    refine ⟨⟨live, kept, ?_⟩, rfl⟩
    show start.Matches next.registered (wanted start.handler)
    rw [flags, entered]
    exact both
  case h_2 => contradiction

/-! With a willing `epoll_ctl` no run ends early. -/

/-- epoll does all that is asked for the handler's descriptor, which is open. -/
structure Permitted (attached : Attached) : Prop where
  willing : Epoll.Willing attached.reactor.pollSet.epoll.refusal
  unclosed : attached.reactor.pollSet.epoll.closed attached.socket.sockfd = false

theorem construct_of_willing (object address : Nat) (socket : ServerSocket)
    (ready : reactor.Ready none) (willing : Epoll.Willing reactor.pollSet.epoll.refusal) :
    ∃ attached, construct object address socket reactor = some attached ∧
      attached.Permitted := by
  let start : Attached :=
    ⟨object, address, EchoServiceHandler.construct socket true, reactor.opened socket.sockfd⟩
  have accompanied : start.Accompanied start.reactor.registered start.handler.requests :=
    ⟨.inl rfl, .inl rfl, trivial⟩
  obtain ⟨next, ran, willing, unclosed⟩ :=
    @carryOut_of_willing start _ _ (ready.opened socket.sockfd) willing (if_pos rfl) _ accompanied
  refine ⟨{ start with reactor := next }, ?_, willing, unclosed⟩
  show start.advance start.handler _ = _
  rw [advance, ran]

theorem Steady.accompanied (steady : attached.Steady) {requests : List Request}
    (apart : ∀ request ∈ requests, request.interest ≠ .shutdown) :
    attached.Accompanied attached.reactor.registered requests := by
  apply accompanied_of_other ((steady.follows .shutdown).mpr rfl)
  intro request member same
  exact apart request member (observer_inj same).symm

theorem Steady.of_admits (steady : attached.Steady) (permitted : attached.Permitted)
    {callback : Callback} (admitted : attached.handler.admits callback = true) :
    ∃ next, attached.step (.callback callback) = some next ∧ next.Permitted := by
  obtain ⟨handler, moved, moves⟩ := moves_of_admits steady.live.working admitted
  obtain ⟨requests, asked, apart, _⟩ := follows_of_moves attached steady.live moves
  have registered := has_of_moves steady moves
  cases listed : attached.reactor.listing attached.socket
      (attached.observer callback.interest) with
  | none => exact absurd registered (SocketReactor.listing_eq_none_iff.mp listed)
  | some found =>
      obtain ⟨n, id⟩ := found
      obtain ⟨reactor, ran, willing, unclosed⟩ := locked_of_willing steady.ready permitted.willing
        permitted.unclosed (allocated_of_listing steady.ready listed) (steady.accompanied apart)
      refine ⟨{ attached with handler := handler, reactor := reactor }, ?_, willing, ?_⟩
      · rw [step_callback listed moved asked, advance, ran]
      · rw [Attached.socket, socket_of_moves moves]
        exact unclosed

theorem Steady.permitted_next {next : Attached} {event : Event} (steady : attached.Steady)
    (permitted : attached.Permitted) (stepped : attached.step event = some next) :
    next.Permitted := by
  cases event with
  | callback callback =>
      obtain ⟨last, same, kept⟩ :=
        steady.of_admits permitted (admits_of_step (steady.callback stepped).2)
      cases stepped.symm.trans same
      exact kept
  | elsewhere call =>
      obtain ⟨foreign, rfl⟩ := step_elsewhere steady.ready stepped
      refine ⟨?_, SocketReactor.unclosed_outcome permitted.unclosed ?_⟩
      · exact (SocketReactor.refusal_outcome attached.reactor call) ▸ permitted.willing
      · exact fun same => spares_of_foreign foreign same ((steady.follows .shutdown).mpr rfl)

/-- `_fifoIn` asks for input as long as it is not full, `_fifoOut` for output as long as
it is not empty. -/
structure Controlled (attached : Attached) : Prop where
  readable : attached.Has .readable ↔ attached.handler.fifoIn.isFull = false
  writable : attached.Has .writable ↔ attached.handler.fifoOut.isEmpty = false
  shutdown : attached.Has .shutdown
  once : ∀ interest, (attached.reactor.registered attached.socket.sockfd).count
    (attached.observer interest) ≤ 1

theorem Steady.controlled (steady : attached.Steady) : attached.Controlled where
  readable := (steady.follows .readable).trans (by simp [wanted])
  writable := (steady.follows .writable).trans (by simp [wanted])
  shutdown := (steady.follows .shutdown).mpr rfl
  once _ := List.nodup_iff_count_le_one.mp (steady.ready.distinct _) _

/-- A handler is controlled by the fill levels of its FIFOs from its construction on;
and as long as `epoll_ctl` succeeds, every callback that is admitted comes back. -/
theorem flow_control (object address : Nat) (socket : ServerSocket) (reactor : SocketReactor)
    (ready : reactor.Ready none)
    (fresh : ∀ observer ∈ reactor.registered socket.sockfd, observer.object ≠ some object)
    (events : List Event) :
    (∀ attached, construct object address socket reactor = some attached →
      attached.Controlled ∧ Runs.Always step Controlled attached events) ∧
    (Epoll.Willing reactor.pollSet.epoll.refusal →
      ∃ attached, construct object address socket reactor = some attached ∧
        ∀ later, Runs.exec step attached events = some later →
          ∀ callback, later.handler.admits callback = true →
            ∃ next, later.step (.callback callback) = some next) := by
  constructor
  · intro attached constructed
    have steady := (steady_of_construct ready fresh constructed).1
    have always : Runs.Always step Steady attached events :=
      Runs.always_of_keeps (fun _ _ _ steady stepped => steady.next stepped) steady
    exact ⟨steady.controlled, always.mono fun _ steady => steady.controlled⟩
  · intro willing
    obtain ⟨attached, constructed, permitted⟩ :=
      construct_of_willing object address socket ready willing
    have steady := (steady_of_construct ready fresh constructed).1
    refine ⟨attached, constructed, ?_⟩
    intro later reached callback admitted
    have kept : later.Steady ∧ later.Permitted :=
      Runs.exec_keeps (fun attached => attached.Steady ∧ attached.Permitted)
        (fun _ _ _ holds stepped =>
          ⟨holds.1.next stepped, holds.1.permitted_next holds.2 stepped⟩)
        ⟨steady, permitted⟩ reached
    obtain ⟨next, stepped, _⟩ := kept.1.of_admits kept.2 admitted
    exact ⟨next, stepped⟩

/-- A handler that its reactor serves alone, and one byte that comes in. -/
theorem flow_control_one_byte :
    let reactor := SocketReactor.empty true (fun _ => true) Epoll.obliging
    let events := [Event.callback (.readable [.ok [7]])]
    ∃ attached, construct 0 100 ⟨3, false⟩ reactor = some attached ∧
      attached.Controlled ∧ Runs.Always step Controlled attached events ∧
      ∀ later, Runs.exec step attached events = some later →
        ∀ callback, later.handler.admits callback = true →
          ∃ next, later.step (.callback callback) = some next := by
  intro reactor events
  have controls := flow_control 0 100 ⟨3, false⟩ reactor (SocketReactor.ready_empty _ _)
    (by simp [reactor, SocketReactor.registered, SocketReactor.empty]) events
  obtain ⟨attached, constructed, comes⟩ := controls.2 Epoll.willing_obliging
  obtain ⟨controlled, always⟩ := controls.1 attached constructed
  exact ⟨attached, constructed, controlled, always, comes⟩

end Attached

end EchoServiceHandler

end TestReactor
