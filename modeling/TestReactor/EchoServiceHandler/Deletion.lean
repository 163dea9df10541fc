import TestReactor.EchoServiceHandler.Answers
import TestReactor.EchoServiceHandler.FlowControl

namespace TestReactor

namespace EchoServiceHandler

/-! How a handler comes to its end: by its own decision, or since the reactor has thrown at one
of its slots. -/

/-- The requests of the slots on the way to `next`.  Those of the destructor come last. -/
def slots (handler next : State) : List Request :=
  let requests := next.requests.drop handler.requests.length
  if next.alive then requests else requests.take (requests.length - farewell.length)

namespace Attached

abbrev Method (α : Type) := Exec Attached α

def reactorField : Field Attached SocketReactor where
  get := reactor
  set reactor attached := { attached with reactor := reactor }
  get_set _ _ := rfl
  set_get _ := rfl
  set_set _ _ _ := rfl

def asked (attached : Attached) (requests : List Request) (reactor : SocketReactor) : Attached :=
  { attached with
    handler := { attached.handler with requests := attached.handler.requests ++ requests }
    reactor := reactor }

def ask (request : Request) : Method Unit := do
  let attached ← get
  set (attached.asked [request] attached.reactor)
  Exec.on reactorField (attached.call request).run

/-- The end of the handler, whose `_socket` closes the descriptor. -/
def deleted (attached : Attached) : Attached :=
  { attached with
    handler := { attached.handler with alive := false }
    reactor := attached.reactor.closing attached.socket.sockfd }

/-- `~EchoServiceHandler`.  No exception gets out of it: the program would end. -/
def destruct : Method Unit := do
  Exec.catching (Exec.forEach farewell ask) fun _ => Exec.raise .abort
  modify deleted

/-- The handler when the bytes of a callback that leads to `next` have passed, and no slot has
been called yet. -/
def passed (attached : Attached) (next : State) : Attached :=
  { attached with
    handler := { next with
      requests := attached.handler.requests
      alive := attached.handler.alive } }

def attempt (next : State) : Method Unit := do
  let attached ← get
  set (attached.passed next)
  Exec.forEach (slots attached.handler next) ask

/-- A callback that leads to `next` if the reactor does not throw; it deletes the handler if it
does. -/
def heed (next : State) : Method Unit :=
  Exec.catching
    (do
      attempt next
      Exec.when (!next.alive) destruct)
    fun _ => destruct

variable {attached next : Attached} {held : Option Nat} {reactor : SocketReactor}

structure Took (attached : Attached) (held : Option Nat) (requests : List Request)
    (reactor : SocketReactor) : Prop where
  ready : reactor.Ready held
  registered : reactor.registered = attached.entered attached.reactor.registered requests
  refusal : reactor.pollSet.epoll.refusal = attached.reactor.pollSet.epoll.refusal

theorem run_ask (ready : attached.reactor.Ready held) (request : Request) :
    (ask request).run attached = match attached.reactor.outcome (attached.call request) with
      | (none, reactor) => .ok () (attached.asked [request] reactor)
      | (some errno, reactor) =>
          .error (.throw (ServerSocket.message errno)) (attached.asked [request] reactor) := by
  have ran := ready.run_call (attached.call request)
  simp only [ask, EStateM.run_bind, EStateM.run_get, EStateM.run_set, Exec.run_on]
  rw [show reactorField.get (attached.asked [request] attached.reactor) = attached.reactor from rfl,
    ran]
  cases outcome : attached.reactor.outcome (attached.call request) with
  | mk err reactor => cases err <;> rfl

theorem took_ask (ready : attached.reactor.Ready held) (request : Request) :
    attached.Took held [request] (attached.reactor.outcome (attached.call request)).2 :=
  ⟨ready.outcome _, ready.registered_outcome _, SocketReactor.refusal_outcome _ _⟩

theorem Took.cons {request : Request} {middle : SocketReactor} {requests : List Request}
    (first : attached.Took held [request] middle)
    (rest : (attached.asked [request] middle).Took held requests reactor) :
    attached.Took held (request :: requests) reactor where
  ready := rest.ready
  registered := by
    have registered := rest.registered
    rw [show (attached.asked [request] middle).reactor = middle from rfl, first.registered]
      at registered
    exact registered
  refusal := rest.refusal.trans first.refusal

/-- The requests are made one after the other, up to the first one at which the reactor
throws. -/
theorem run_asks (ready : attached.reactor.Ready held) (requests : List Request) :
    (∃ reactor, (attached.carryOut requests).run attached.reactor = .ok () reactor ∧
      (Exec.forEach requests ask).run attached = .ok () (attached.asked requests reactor) ∧
      attached.Took held requests reactor) ∨
    ∃ what made reactor, made <+: requests ∧
      (∀ other, (attached.carryOut requests).run attached.reactor ≠ .ok () other) ∧
      (Exec.forEach requests ask).run attached =
        .error (.throw what) (attached.asked made reactor) ∧
      attached.Took held made reactor := by
  induction requests generalizing attached with
  | nil =>
      have same : attached.asked [] attached.reactor = attached := by
        simp only [asked, List.append_nil]
      exact .inl ⟨attached.reactor, rfl, by rw [same]; rfl, ready, rfl, rfl⟩
  | cons request rest ih =>
      have ran := run_ask ready request
      have took := took_ask ready request
      rw [carryOut, Exec.forEach, Exec.forEach, EStateM.run_bind, EStateM.run_bind,
        ready.run_call, ran]
      cases outcome : attached.reactor.outcome (attached.call request) with
      | mk err middle =>
          rw [outcome] at took
          cases err with
          | some errno =>
              refine .inr ⟨_, [request], middle, List.prefix_append [request] rest, ?_, rfl, took⟩
              rintro other ⟨⟩
          | none =>
              have again : ∀ made reactor, (attached.asked [request] middle).asked made reactor =
                  attached.asked (request :: made) reactor := by
                intro made reactor
                simp only [asked, List.append_assoc, List.singleton_append]
              rcases @ih (attached.asked [request] middle) took.ready with
                ⟨reactor, carried, asks, kept⟩ | ⟨what, made, reactor, part, stuck, asks, kept⟩
              · exact .inl ⟨reactor, carried, (again rest reactor) ▸ asks, took.cons kept⟩
              · exact .inr ⟨what, request :: made, reactor, List.cons_prefix_cons.mpr ⟨rfl, part⟩,
                  stuck, (again made reactor) ▸ asks, took.cons kept⟩

theorem run_destruct (ready : attached.reactor.Ready held) :
    (∃ reactor, (attached.carryOut farewell).run attached.reactor = .ok () reactor ∧
      destruct.run attached = .ok () (attached.asked farewell reactor).deleted ∧
      attached.Took held farewell reactor) ∨
    (∀ reactor, (attached.carryOut farewell).run attached.reactor ≠ .ok () reactor) ∧
      ∃ last, destruct.run attached = .error .abort last := by
  rcases run_asks ready farewell with ⟨reactor, carried, asks, took⟩ | ⟨what, made, reactor, -,
    stuck, asks, -⟩
  · refine .inl ⟨reactor, carried, ?_, took⟩
    simp only [destruct, EStateM.run_bind, Exec.run_catching, asks]
    rfl
  · refine .inr ⟨stuck, attached.asked made reactor, ?_⟩
    simp only [destruct, EStateM.run_bind, Exec.run_catching, asks]
    rfl

/-! What the destructor finds and leaves in the reactor. -/

variable {registry : Registry Int Observer}

theorem Matches.removed {flags : Interest → Bool}
    (follows : attached.Matches registry flags) (distinct : registry.Distinct)
    (interest : Interest) :
    attached.Matches (attached.entered registry [⟨false, interest⟩])
      (Function.update flags interest false) := by
  intro other
  by_cases own : other = interest
  · subst own
    rw [Function.update_self]
    exact iff_of_false (Registry.not_mem_remove distinct) Bool.false_ne_true
  · rw [Function.update_of_ne own, ← follows other]
    exact Registry.mem_remove_of_ne (mt observer_inj own)

def flags (attached : Attached) (registry : Registry Int Observer) (interest : Interest) : Bool :=
  decide (attached.observer interest ∈ registry attached.socket.sockfd)

theorem matches_flags (attached : Attached) (registry : Registry Int Observer) :
    attached.Matches registry (attached.flags registry) :=
  fun _ => decide_eq_true_iff.symm

theorem matches_farewell (attached : Attached) (distinct : registry.Distinct) :
    attached.Matches (attached.entered registry farewell) fun _ => false := by
  have first := (matches_flags attached registry).removed distinct .readable
  have distinct := distinct_entered attached distinct [⟨false, .readable⟩]
  have second := first.removed distinct .writable
  have distinct := distinct_entered attached distinct [⟨false, .writable⟩]
  have third := second.removed distinct .shutdown
  have none : Function.update (Function.update (Function.update (attached.flags registry)
      .readable false) .writable false) .shutdown false = fun _ => false := by
    funext interest
    cases interest <;> rfl
  rwa [none] at third

def Own (attached : Attached) (fd : Int) (observer : Observer) : Prop :=
  fd = attached.socket.sockfd ∧ ∃ interest, observer = attached.observer interest

/-- Nobody else has an observer on the handler's socket. -/
def Alone (attached : Attached) : Prop :=
  ∀ observer ∈ attached.reactor.registered attached.socket.sockfd,
    attached.Own attached.socket.sockfd observer

theorem mem_entered {fd : Int} {observer : Observer} (distinct : registry.Distinct)
    {requests : List Request} (apart : ∀ request ∈ requests,
      ¬ (fd = attached.socket.sockfd ∧ observer = attached.observer request.interest)) :
    observer ∈ attached.entered registry requests fd ↔ observer ∈ registry fd := by
  induction requests generalizing registry with
  | nil => rfl
  | cons request rest ih =>
      obtain ⟨adds, interest⟩ := request
      rw [List.forall_mem_cons] at apart
      refine (ih (SocketReactor.distinct_enter distinct _) apart.2).trans ?_
      cases adds with
      | true => exact Registry.mem_add_iff.trans (or_iff_left apart.1)
      | false => exact (Registry.mem_remove_iff distinct).trans (and_iff_left apart.1)

theorem mem_entered_of_not_own {fd : Int} {observer : Observer} (distinct : registry.Distinct)
    (apart : ¬ attached.Own fd observer) (requests : List Request) :
    observer ∈ attached.entered registry requests fd ↔ observer ∈ registry fd :=
  mem_entered distinct fun request _ same => apart ⟨same.1, request.interest, same.2⟩

theorem carryOut_concat {requests : List Request} {request : Request} {last : SocketReactor}
    (ran : (attached.carryOut (requests ++ [request])).run reactor = .ok () last) :
    ∃ middle, (attached.carryOut requests).run reactor = .ok () middle ∧
      (attached.call request).run.run middle = .ok () last := by
  induction requests generalizing reactor with
  | nil =>
      refine ⟨reactor, rfl, ?_⟩
      rw [List.nil_append, carryOut, Exec.forEach, EStateM.run_bind] at ran
      cases came : (attached.call request).run.run reactor with
      | ok value next =>
          rw [came] at ran
          cases ran
          rfl
      | error stop next =>
          rw [came] at ran
          contradiction
  | cons first rest ih =>
      rw [List.cons_append, carryOut, Exec.forEach, EStateM.run_bind] at ran
      rw [carryOut, Exec.forEach, EStateM.run_bind]
      cases came : (attached.call first).run.run reactor with
      | ok value next =>
          rw [came] at ran
          exact ih ran
      | error stop next =>
          rw [came] at ran
          contradiction

theorem eq_singleton_of_nodup {items : List α} {item : α} (nodup : items.Nodup)
    (member : item ∈ items) (only : ∀ other ∈ items, other = item) : items = [item] := by
  have same := List.eq_replicate_of_mem only
  rw [same] at nodup member
  have one : items.length ≤ 1 := List.nodup_replicate.mp nodup
  have some : items.length ≠ 0 := (List.mem_replicate.mp member).1
  rw [same, show items.length = 1 by omega]
  rfl

/-- A handler that is alone on its socket cannot be destroyed: the descriptor is closed before
epoll is told to delete it. -/
theorem not_destroyed_of_alone (ready : attached.reactor.Ready held) (alone : attached.Alone)
    (has : attached.Has .shutdown) :
    ∀ last, (attached.carryOut farewell).run attached.reactor ≠ .ok () last := by
  intro last carried
  obtain ⟨middle, front, removed⟩ :=
    @carryOut_concat attached _ [⟨false, .readable⟩, ⟨false, .writable⟩] _ _ carried
  obtain ⟨kept, entered⟩ := entered_of_carryOut ready front
  have distinct := distinct_entered attached ready.distinct [⟨false, .readable⟩]
  have first := (matches_flags attached _).removed ready.distinct .readable
  have second := first.removed distinct .writable
  have follows : attached.Matches middle.registered _ := entered ▸ second
  have only : middle.registered attached.socket.sockfd = [attached.observer .shutdown] := by
    apply eq_singleton_of_nodup (kept.distinct _)
    · rw [follows .shutdown]
      exact decide_eq_true has
    · intro other member
      have mine : attached.Own attached.socket.sockfd other := by
        apply Classical.byContradiction
        intro apart
        rw [entered, mem_entered_of_not_own ready.distinct apart] at member
        exact apart (alone other member)
      obtain ⟨-, interest, rfl⟩ := mine
      have flag := (follows interest).mp member
      cases interest with
      | readable | writable => contradiction
      | shutdown => rfl
  have thrown : (middle.outcome (attached.call ⟨false, .shutdown⟩)).1 ≠ none :=
    SocketReactor.outcome_of_last only
  rw [kept.run_call] at removed
  cases outcome : middle.outcome (attached.call ⟨false, .shutdown⟩) with
  | mk err reactor =>
      rw [outcome] at removed thrown
      cases err with
      | none => exact thrown rfl
      | some errno => cases removed

/-- In company it can, where `epoll_ctl` succeeds. -/
theorem destroyed_of_company (ready : attached.reactor.Ready held)
    (willing : Epoll.Willing attached.reactor.pollSet.epoll.refusal)
    (unclosed : attached.reactor.pollSet.epoll.closed attached.socket.sockfd = false)
    (company : ¬ attached.Alone) :
    ∃ last, (attached.carryOut farewell).run attached.reactor = .ok () last := by
  simp only [Alone, Classical.not_forall] at company
  obtain ⟨other, member, apart⟩ := company
  have accompanied : attached.Accompanied attached.reactor.registered farewell :=
    accompanied_of_other member fun request _ same => apart ⟨rfl, request.interest, same⟩
  obtain ⟨last, carried, -⟩ := carryOut_of_willing ready willing unclosed accompanied
  exact ⟨last, carried⟩

end Attached

end EchoServiceHandler

end TestReactor
