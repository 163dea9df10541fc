import TestReactor.SocketReactor.Ready
import TestReactor.SocketReactor.View

namespace TestReactor

namespace PollSet

variable {pollSet : PollSet} {socket : SocketRef} {mode : Mode}

/-- `add` gets its socket into epoll: the addition succeeds, or the update does that takes
its place. -/
def Takes (pollSet : PollSet) (socket : SocketRef) (mode : Mode) : Prop :=
  let event : Epoll.Event Nat := ⟨events mode, socket.address⟩
  match pollSet.epoll.refused .add socket.sockfd with
  | none => True
  | some errno => errno = Errno.EEXIST ∧
      (pollSet.epoll.ctl .add socket.sockfd event).refused .mod socket.sockfd = none

theorem interest_accepted {op : CtlOp} {fd : Int} (accepted : pollSet.epoll.refused op fd = none)
    (event : Epoll.Event Nat) :
    (pollSet.controlled op fd event).epoll.interest =
      Function.update pollSet.epoll.interest fd (Epoll.left op event) := by
  funext other
  rw [controlled, Epoll.interest_ctl accepted, Function.update_apply]

theorem interest_refused {op : CtlOp} {fd : Int} {errno : Nat}
    (refused : pollSet.epoll.refused op fd = some errno) (event : Epoll.Event Nat) :
    (pollSet.controlled op fd event).epoll.interest = pollSet.epoll.interest :=
  Epoll.ctl_of_refused refused

theorem registered_of_takes (takes : pollSet.Takes socket mode) :
    ∃ next, pollSet.registered socket mode = (none, next) ∧
      next.epoll.interest =
        Function.update pollSet.epoll.interest socket.sockfd
          (some ⟨events mode, socket.address⟩) ∧
      next.socketMap = pollSet.socketMap := by
  unfold Takes at takes
  unfold registered
  cases refused : pollSet.epoll.refused .add socket.sockfd with
  | none => exact ⟨_, rfl, interest_accepted refused _, rfl⟩
  | some errno =>
      simp only [refused] at takes
      obtain ⟨rfl, accepted⟩ := takes
      have accepted : (pollSet.controlled .add socket.sockfd
          ⟨events mode, socket.address⟩).epoll.refused .mod socket.sockfd = none := accepted
      let added := pollSet.controlled .add socket.sockfd ⟨events mode, socket.address⟩
      refine ⟨added.controlled .mod socket.sockfd ⟨events mode, socket.address⟩,
        by simp only [if_true, accepted, added], ?_, rfl⟩
      rw [interest_accepted accepted, interest_refused refused]
      rfl

theorem registered_of_not_takes (takes : ¬ pollSet.Takes socket mode) :
    ∃ errno next, pollSet.registered socket mode = (some errno, next) ∧
      next.epoll.interest = pollSet.epoll.interest ∧ next.socketMap = pollSet.socketMap := by
  unfold Takes at takes
  unfold registered
  cases refused : pollSet.epoll.refused .add socket.sockfd with
  | none => simp [refused] at takes
  | some errno =>
      simp only [refused, not_and] at takes
      let added := pollSet.controlled .add socket.sockfd ⟨events mode, socket.address⟩
      have same : added.epoll.interest = pollSet.epoll.interest := interest_refused refused _
      by_cases listed : errno = Errno.EEXIST
      · obtain ⟨errno', again⟩ := Option.ne_none_iff_exists'.mp (takes listed)
        have again : added.epoll.refused .mod socket.sockfd = some errno' := again
        refine ⟨errno', added.controlled .mod socket.sockfd ⟨events mode, socket.address⟩,
          by simp only [if_pos listed, again, added], ?_, rfl⟩
        rw [interest_refused again, same]
      · exact ⟨errno, added, by simp only [if_neg listed, added], same, rfl⟩

theorem sockets_remembered (pollSet : PollSet) (socket : SocketRef) :
    (fun address : Nat => (pollSet.remembered socket).socketMap[address]?) =
      Function.update (fun address : Nat => pollSet.socketMap[address]?) socket.address
        (some ((pollSet.socketMap[socket.address]?).getD socket.sockfd)) := by
  funext address
  unfold remembered
  split
  case isTrue member =>
    obtain ⟨fd, found⟩ := Option.isSome_iff_exists.mp
      (Std.TreeMap.mem_iff_isSome_getElem?.mp member)
    by_cases same : address = socket.address
    · simp [same, found]
    · simp [same]
  case isFalse absent =>
    by_cases same : address = socket.address
    · simp [same, Std.TreeMap.getElem?_eq_none absent]
    · simp [same, Ne.symm same, Std.TreeMap.getElem?_insert]

end PollSet

namespace SocketReactor

open Function (update)

/-! Calls that do all that they are for, or nothing. -/

variable {reactor : SocketReactor}

/-- A reactor whose structures fit together, and whose mutexes the call can lock. -/
structure Valid (reactor : SocketReactor) : Prop where
  unlocked : reactor.Unlocked
  free : ∀ id, (reactor.cells id).mutex.Lockable
  sound : reactor.Sound
  distinct : reactor.registered.Distinct
  lawful : Epoll.Lawful reactor.pollSet.epoll.refusal

theorem Ready.valid {held : Option Nat} (ready : reactor.Ready held)
    (lawful : Epoll.Lawful reactor.pollSet.epoll.refusal) : reactor.Valid :=
  ⟨ready.idle.unlocked, ready.idle.recursive_cell, ready.sound, ready.distinct, lawful⟩

def joined (reactor : SocketReactor) (fd : Int) (observer : Observer) :
    List (Option SocketNotification) :=
  if observer ∈ reactor.registered fd then reactor.counted fd
  else reactor.including observer (reactor.counted fd)

def registering (reactor : SocketReactor) (socket : SocketRef) (observer : Observer) : View :=
  let fd := socket.sockfd
  let events := reactor.joined fd observer
  let mode := reactor.asked events
  let before := reactor.view
  { handlers := update before.handlers fd (some ((before.handlers fd).getD reactor.notifierCount))
    observers := before.observers.add fd observer
    events := update before.events fd events
    interest :=
      if mode = 0 then before.interest
      else update before.interest fd (some ⟨PollSet.events mode, socket.address⟩)
    sockets :=
      if mode = 0 then before.sockets
      else update before.sockets socket.address
        (some ((before.sockets socket.address).getD fd)) }

def unregistering (reactor : SocketReactor) (socket : SocketRef) (observer : Observer) : View :=
  let fd := socket.sockfd
  let before := reactor.view
  if reactor.registered fd = [observer] then
    { handlers := update before.handlers fd none
      observers := before.observers.remove fd observer
      events := update before.events fd []
      interest := update before.interest fd none
      sockets := update before.sockets socket.address none }
  else if observer ∈ reactor.registered fd then
    let events := reactor.excluding observer (reactor.counted fd)
    { before with
      observers := before.observers.remove fd observer
      events := update before.events fd events
      interest := update before.interest fd ((before.interest fd).map fun _ =>
        ⟨PollSet.events (reactor.asked events), socket.address⟩) }
  else before

def goal (reactor : SocketReactor) : Call → View
  | .add socket observer => reactor.registering socket observer
  | .remove socket observer => reactor.unregistering socket observer

/-- The observer that a removal takes out of its list calls nobody back any more. -/
def Disables (reactor next : SocketReactor) : Call → Prop
  | .add _ _ => True
  | .remove socket observer => ∀ n id, reactor.listing socket observer = some (n, id) →
      (next.cells id).observer.object = none

/-- A call returns with everything done, or throws with nothing done. -/
def AllOrNothing (reactor : SocketReactor) (call : Call) : Prop :=
  (∃ next, call.run.run reactor = .ok () next ∧ next.view = reactor.goal call ∧
    reactor.Disables next call) ∨
  ∃ what next, call.run.run reactor = .error (.throw what) next ∧ next.view = reactor.view

theorem allOrNothing_of_ok {call : Call} {next : SocketReactor}
    (returned : call.run.run reactor = .ok () next) :
    reactor.AllOrNothing call ↔ next.view = reactor.goal call ∧ reactor.Disables next call := by
  simp only [AllOrNothing, returned]
  constructor
  · rintro (⟨_, ⟨rfl⟩, done⟩ | ⟨_, _, thrown, _⟩)
    · exact done
    · contradiction
  · exact fun done => .inl ⟨next, rfl, done⟩

theorem allOrNothing_of_throw {call : Call} {what : String} {next : SocketReactor}
    (thrown : call.run.run reactor = .error (.throw what) next) :
    reactor.AllOrNothing call ↔ next.view = reactor.view := by
  simp only [AllOrNothing, thrown]
  constructor
  · rintro (⟨_, returned, _⟩ | ⟨_, _, ⟨rfl⟩, same⟩)
    · contradiction
    · exact same
  · exact fun same => .inr ⟨what, next, rfl, same⟩

def Spared (reactor : SocketReactor) : Call → Prop
  | .add socket observer =>
      let mode := reactor.asked (reactor.joined socket.sockfd observer)
      observer ∈ reactor.registered socket.sockfd ∨ mode = 0 ∨ reactor.pollSet.Takes socket mode
  | .remove socket observer =>
      let fd := socket.sockfd
      let epoll := reactor.pollSet.epoll
      let mode := reactor.asked (reactor.excluding observer (reactor.counted fd))
      if reactor.registered fd = [observer] then False
      else if observer ∈ reactor.registered fd then
        if fd > 0 then epoll.refused .mod fd = none
        else epoll.interest fd = none ∨
          epoll.interest fd = some ⟨PollSet.events mode, socket.address⟩
      else True

section Add

variable {socket : SocketRef} {observer : Observer}

def entering (reactor : SocketReactor) (socket : SocketRef) (observer : Observer) :
    SocketReactor :=
  (reactor.arrived socket.sockfd).2.enrolled (reactor.arrived socket.sockfd).1 observer

theorem view_withPollSet (reactor : SocketReactor) (pollSet : PollSet) :
    (reactor.withPollSet pollSet).view =
      { reactor.view with
        interest := pollSet.epoll.interest
        sockets := fun address => pollSet.socketMap[address]? } := rfl

theorem view_entering (sound : reactor.Sound) (socket : SocketRef) (observer : Observer) :
    (reactor.entering socket observer).view =
      { reactor.registering socket observer with
        interest := reactor.view.interest
        sockets := reactor.view.sockets } := by
  have arrived := sound.arrived socket.sockfd
  have found := arrived_found reactor socket.sockfd
  have pollSet : (reactor.entering socket observer).pollSet = reactor.pollSet := by
    rw [entering, pollSet_enrolled, pollSet_arrived]
  have handlers : (reactor.entering socket observer).handlers =
      (reactor.arrived socket.sockfd).2.handlers := by
    unfold entering enrolled
    split
    · rfl
    · exact handlers_enlisted _ _ observer
  apply View.ext
  · show (fun fd => (reactor.entering socket observer).handlers[fd]?) = _
    rw [handlers]
    exact handlers_arrived reactor socket.sockfd
  · show (reactor.entering socket observer).registered = _
    rw [entering, registered_enrolled arrived found, registered_arrived sound]
    rfl
  · show (reactor.entering socket observer).counted = _
    have event : (reactor.arrived socket.sockfd).2.including observer =
        reactor.including observer := by
      unfold SocketReactor.arrived
      split <;> rfl
    rw [entering, counted_enrolled arrived found, registered_arrived sound, counted_arrived sound,
      event]
    rfl
  · show (reactor.entering socket observer).pollSet.epoll.interest = _
    rw [pollSet]
    rfl
  · show (fun address : Nat => (reactor.entering socket observer).pollSet.socketMap[address]?) = _
    rw [pollSet]
    rfl

theorem handlers_entering (sound : reactor.Sound) (socket : SocketRef) (observer : Observer) :
    (reactor.entering socket observer).handlers[socket.sockfd]? =
      some (reactor.arrived socket.sockfd).1 := by
  have handlers := congrFun (congrArg View.handlers (view_entering sound socket observer))
    socket.sockfd
  rw [show (reactor.entering socket observer).handlers[socket.sockfd]? = _ from handlers]
  simp only [registering, Function.update_self]
  unfold arrived
  split <;> rename_i found <;> simp [view, found]

theorem interest_entering (sound : reactor.Sound) (socket : SocketRef) (observer : Observer) :
    (reactor.entering socket observer).interest (reactor.arrived socket.sockfd).1 =
      reactor.asked (reactor.joined socket.sockfd observer) := by
  have events := congrFun (congrArg View.events (view_entering sound socket observer))
    socket.sockfd
  have events : (reactor.entering socket observer).counted socket.sockfd =
      reactor.joined socket.sockfd observer := by
    rw [show (reactor.entering socket observer).counted socket.sockfd = _ from events]
    simp only [registering, Function.update_self]
  rw [counted_found (handlers_entering sound socket observer)] at events
  have owns : (reactor.entering socket observer).owns = reactor.owns := by
    rw [entering, owns_enrolled, owns_arrived]
  rw [interest_eq_asked owns, events]

theorem entering_eq_iff (sound : reactor.Sound) :
    (reactor.entering socket observer).view = reactor.view ↔
      observer ∈ reactor.registered socket.sockfd := by
  constructor
  · intro same
    have observers := congrFun (congrArg View.observers same) socket.sockfd
    rw [view_entering sound] at observers
    have observers : reactor.registered.add socket.sockfd observer socket.sockfd =
        reactor.registered socket.sockfd := observers
    rw [← observers]
    exact Registry.mem_add_self
  · intro known
    have entered : reactor.entering socket observer = reactor := by
      cases listed : reactor.listing socket observer with
      | none => exact absurd known (listing_eq_none_iff.mp listed)
      | some found =>
          obtain ⟨n, id⟩ := found
          obtain ⟨found, member⟩ := listing_eq_some.mp listed
          have arrived : reactor.arrived socket.sockfd = (n, reactor) := by
            simp only [SocketReactor.arrived, found]
          rw [entering, arrived, enrolled, member]
          exact if_pos rfl
    rw [entered]

theorem addition_eq (reactor : SocketReactor) (sound : reactor.Sound) (socket : SocketRef)
    (observer : Observer) :
    reactor.addition socket observer =
      let next := reactor.entering socket observer
      let mode := reactor.asked (reactor.joined socket.sockfd observer)
      if mode = 0 then (none, next)
      else
        match reactor.pollSet.registered socket mode with
        | (none, pollSet) => (none, next.withPollSet (pollSet.remembered socket))
        | (some errno, pollSet) => (some errno, next.withPollSet pollSet) := by
  have mode := interest_entering sound socket observer
  unfold entering at mode
  simp only [addition, mode]
  rfl

theorem allOrNothing_add (valid : reactor.Valid) (socket : SocketRef) (observer : Observer) :
    reactor.AllOrNothing (.add socket observer) ↔ reactor.Spared (.add socket observer) := by
  have ran := run_call valid.unlocked valid.free (.add socket observer)
  have view := view_entering valid.sound socket observer
  have known : (reactor.entering socket observer).view = reactor.view ↔
      observer ∈ reactor.registered socket.sockfd := entering_eq_iff valid.sound
  rw [show reactor.outcome (.add socket observer) = _ from
    addition_eq reactor valid.sound socket observer] at ran
  simp only [Spared]
  generalize reactor.entering socket observer = next at ran view known
  generalize wanted : reactor.asked (reactor.joined socket.sockfd observer) = mode at ran ⊢
  by_cases silent : mode = 0
  · simp only [if_pos silent, ended] at ran
    rw [allOrNothing_of_ok ran]
    refine iff_of_true ⟨?_, trivial⟩ (.inr (.inl silent))
    rw [view, goal, registering, wanted]
    simp only [if_pos silent]
  · by_cases takes : reactor.pollSet.Takes socket mode
    · obtain ⟨pollSet, registered, interest, socketMap⟩ := PollSet.registered_of_takes takes
      simp only [if_neg silent, registered, ended] at ran
      rw [allOrNothing_of_ok ran]
      refine iff_of_true ⟨?_, trivial⟩ (.inr (.inr takes))
      rw [view_withPollSet, view, goal, registering, wanted, PollSet.sockets_remembered,
        PollSet.epoll_remembered, interest, socketMap]
      simp only [if_neg silent]
      rfl
    · obtain ⟨errno, pollSet, registered, interest, socketMap⟩ :=
        PollSet.registered_of_not_takes takes
      simp only [if_neg silent, registered, ended] at ran
      have unchanged : (next.withPollSet pollSet).view = next.view := by
        rw [view_withPollSet, interest, socketMap, view]
        rfl
      rw [allOrNothing_of_throw ran, unchanged, known]
      simp only [silent, takes, or_false]

end Add

section Remove

variable {socket : SocketRef} {observer : Observer} {n id : Nat}

theorem object_delisted (reactor : SocketReactor) (n id : Nat) (observer : Observer) :
    ((reactor.delisted n observer id).cells id).observer.object = none := by
  unfold delisted
  split <;> simp [withEvents, unlisted, silenced, putNotifier, putCell, Observer.disabled]

theorem not_allOrNothing_last (valid : reactor.Valid)
    (listed : reactor.listing socket observer = some (n, id))
    (last : (reactor.notifiers n).observers.length = 1) :
    ¬ reactor.AllOrNothing (.remove socket observer) := by
  have found := (listing_eq_some.mp listed).1
  have ran : (Call.remove socket observer).run.run reactor = _ :=
    run_removeEventHandler_last valid.unlocked listed last
  rw [allOrNothing_of_throw ran]
  -- the handler has been erased by then
  intro same
  have kept := congrFun (congrArg View.handlers same) socket.sockfd
  have erased := congrFun (handlers_forgotten reactor socket (reactor.pollSet.shut socket))
    socket.sockfd
  rw [Function.update_self] at erased
  have absent := kept.symm.trans erased
  rw [show reactor.view.handlers socket.sockfd = some n from found] at absent
  contradiction

theorem view_delisted (sound : reactor.Sound)
    (listed : reactor.listing socket observer = some (n, id)) :
    (reactor.delisted n observer id).view =
      { reactor.view with
        observers := reactor.registered.remove socket.sockfd observer
        events := update reactor.counted socket.sockfd
          (reactor.excluding observer (reactor.counted socket.sockfd)) } := by
  obtain ⟨found, member⟩ := listing_eq_some.mp listed
  apply View.ext
  · show (fun fd => (reactor.delisted n observer id).handlers[fd]?) = _
    rw [handlers_delisted]
    rfl
  · exact registered_delisted sound found member
  · exact counted_delisted sound found observer id
  · show (reactor.delisted n observer id).pollSet.epoll.interest = _
    rw [pollSet_delisted]
    rfl
  · show (fun address : Nat => (reactor.delisted n observer id).pollSet.socketMap[address]?) = _
    rw [pollSet_delisted]
    rfl

theorem goal_early (sound : reactor.Sound)
    (listed : reactor.listing socket observer = some (n, id))
    (several : reactor.registered socket.sockfd ≠ [observer]) :
    reactor.goal (.remove socket observer) =
      { (reactor.delisted n observer id).view with
        interest := update reactor.pollSet.epoll.interest socket.sockfd
          ((reactor.pollSet.epoll.interest socket.sockfd).map fun _ =>
            ⟨PollSet.events ((reactor.delisted n observer id).interest n), socket.address⟩) } := by
  rw [goal, unregistering, if_neg several, if_pos (mem_registered listed),
    view_delisted sound listed, interest_eq_asked (owns_delisted reactor n observer id),
    events_delisted, if_pos rfl, counted_found (listing_eq_some.mp listed).1]
  rfl

theorem allOrNothing_early (valid : reactor.Valid)
    (listed : reactor.listing socket observer = some (n, id))
    (several : reactor.registered socket.sockfd ≠ [observer]) :
    reactor.AllOrNothing (.remove socket observer) ↔
      if socket.sockfd > 0 then reactor.pollSet.epoll.refused .mod socket.sockfd = none
      else reactor.pollSet.epoll.interest socket.sockfd = none ∨
        reactor.pollSet.epoll.interest socket.sockfd =
          some ⟨PollSet.events ((reactor.delisted n observer id).interest n),
            socket.address⟩ := by
  have known := mem_registered listed
  have ran : (Call.remove socket observer).run.run reactor = _ :=
    run_earlyRemoval valid.unlocked listed (mt (registered_eq_singleton listed) several)
      (valid.free id)
  have view := view_delisted valid.sound listed
  have wanted := goal_early valid.sound listed several
  have disables : ∀ m other, reactor.listing socket observer = some (m, other) →
      ((reactor.delisted n observer id).cells other).observer.object = none := by
    intro m other listed'
    cases listed.symm.trans listed'
    exact object_delisted reactor n id observer
  unfold earlyRemoval at ran
  generalize reactor.delisted n observer id = next at ran view wanted disables ⊢
  by_cases positive : socket.sockfd > 0
  · simp only [if_pos positive] at ran ⊢
    cases refused : reactor.pollSet.epoll.refused .mod socket.sockfd with
    | some errno =>
        simp only [refused, ended] at ran
        rw [allOrNothing_of_throw ran]
        refine iff_of_false ?_ (Option.some_ne_none errno)
        -- the observer is out of its list by then
        intro same
        have kept : reactor.registered.remove socket.sockfd observer = reactor.registered := by
          have observers := congrArg View.observers same
          rwa [view_withPollSet, view] at observers
        apply Registry.not_mem_remove valid.distinct
        rw [kept]
        exact known
    | none =>
        simp only [refused, ended] at ran
        rw [allOrNothing_of_ok ran]
        refine iff_of_true ⟨?_, disables⟩ rfl
        have held := valid.lawful.listed (by decide) refused
        obtain ⟨event, held⟩ := Option.isSome_iff_exists.mp held
        rw [wanted, view_withPollSet, PollSet.interest_accepted refused, held, view]
        rfl
  · simp only [if_neg positive, ended] at ran ⊢
    rw [allOrNothing_of_ok ran, wanted, view]
    have untouched : ∀ event : Epoll.Event Nat,
        reactor.pollSet.epoll.interest = update reactor.pollSet.epoll.interest socket.sockfd
          ((reactor.pollSet.epoll.interest socket.sockfd).map fun _ => event) ↔
        reactor.pollSet.epoll.interest socket.sockfd = none ∨
          reactor.pollSet.epoll.interest socket.sockfd = some event := by
      intro event
      rw [eq_comm, Function.update_eq_self_iff]
      cases reactor.pollSet.epoll.interest socket.sockfd with
      | none => simp
      | some old => simp [eq_comm]
    rw [← untouched]
    constructor
    · rintro ⟨same, _⟩
      exact congrArg View.interest same
    · intro same
      refine ⟨?_, disables⟩
      rw [← same]
      rfl

end Remove

/-- A call on a valid reactor does all that it is for, or nothing, as long as no call of
`epoll_ctl` that comes after a change fails or is left out. -/
theorem allOrNothing_iff_spared (valid : reactor.Valid) (call : Call) :
    reactor.AllOrNothing call ↔ reactor.Spared call := by
  cases call with
  | add socket observer => exact allOrNothing_add valid socket observer
  | remove socket observer =>
      cases listed : reactor.listing socket observer with
      | none =>
          have ran : (Call.remove socket observer).run.run reactor = .ok () reactor :=
            run_removeEventHandler_unlisted valid.unlocked listed
          have absent := listing_eq_none_iff.mp listed
          have several : reactor.registered socket.sockfd ≠ [observer] := by
            intro single
            rw [single] at absent
            exact absent (List.mem_singleton_self observer)
          rw [allOrNothing_of_ok ran]
          simp only [Spared, if_neg several, if_neg absent, iff_true]
          refine ⟨?_, ?_⟩
          · rw [goal, unregistering, if_neg several, if_neg absent]
          · intro m other listed'
            cases listed.symm.trans listed'
      | some found =>
          obtain ⟨n, id⟩ := found
          have found := (listing_eq_some.mp listed).1
          have known := mem_registered listed
          by_cases single : reactor.registered socket.sockfd = [observer]
          · have last : (reactor.notifiers n).observers.length = 1 := by
              rw [registered_found found] at single
              have length := congrArg List.length single
              rwa [observersOf, List.length_map] at length
            simp only [Spared, if_pos single, iff_false]
            exact not_allOrNothing_last valid listed last
          · rw [allOrNothing_early valid listed single,
              interest_eq_asked (owns_delisted reactor n observer id), events_delisted,
              if_pos rfl, ← counted_found found]
            simp only [Spared, if_neg single, if_pos known]

theorem allOrNothing_iff_spared_first :
    (empty true (fun _ => true) Epoll.strict).AllOrNothing
      (.add ⟨100, 3⟩ (.onSocket 0 .readable 0)) :=
  (allOrNothing_iff_spared ((ready_empty _ _).valid Epoll.lawful_strict) _).mpr
    (.inr (.inr trivial))

/-- The first observer of a socket is removed again. -/
theorem removal_of_only_observer_is_halfway :
    ∃ reactor next what,
      (addEventHandler ⟨100, 3⟩ (.onSocket 7 .readable 0)).run (construct true Epoll.strict) =
        .ok () reactor ∧
      (removeEventHandler ⟨100, 3⟩ (.onSocket 7 .readable 0)).run reactor =
        .error (.throw what) next ∧
      reactor.handlers[(3 : Int)]? = some 0 ∧ next.handlers[(3 : Int)]? = none ∧
      next.observersOf 0 = [.onSocket 7 .readable 0] ∧
      ¬ reactor.AllOrNothing (.remove ⟨100, 3⟩ (.onSocket 7 .readable 0)) := by
  let call : Call := .add ⟨100, 3⟩ (.onSocket 7 .readable 0)
  let reactor := ((construct true Epoll.strict).outcome call).2
  have first : (construct true Epoll.strict).Ready none := ready_empty _ _
  have ready : reactor.Ready none := first.outcome call
  have valid : reactor.Valid := ready.valid Epoll.lawful_strict
  have listed : reactor.listing ⟨100, 3⟩ (.onSocket 7 .readable 0) = some (0, 0) := rfl
  exact ⟨reactor, _, _, (first.run_call call).trans rfl,
    (ready.run_call (.remove ⟨100, 3⟩ (.onSocket 7 .readable 0))).trans rfl, rfl, rfl, rfl,
    not_allOrNothing_last valid listed rfl⟩

end SocketReactor

end TestReactor
