import TestReactor.SocketReactor.Lookup

namespace TestReactor

/-! `SocketAcceptor`: its observer, and the reactors that it is registered with and
unregistered from. -/

/-- An acceptor that stands at `object`.  `socket` is its `_socket`, `reactor` the number of
the reactor that `_pReactor` points to. -/
structure SocketAcceptor where
  object : Nat
  socket : SocketRef
  reactor : Option Nat

namespace SocketAcceptor

/-- `Observer(*this, &SocketAcceptor::onAccept)`. -/
def observer (acceptor : SocketAcceptor) : Observer where
  template := .observer
  handlerClass := 1
  notificationClass := .concrete .readable
  object := some acceptor.object
  method := 0

structure Site where
  acceptor : SocketAcceptor
  reactors : Nat → SocketReactor

namespace Site

abbrev Method (α : Type) := Exec Site α

def put (site : Site) (r : Nat) (reactor : SocketReactor) : Site :=
  { site with reactors := fun other => if other = r then reactor else site.reactors other }

@[simp] theorem reactors_put_self (site : Site) (r : Nat) (reactor : SocketReactor) :
    (site.put r reactor).reactors r = reactor := if_pos rfl

theorem reactors_put_of_ne {r other : Nat} (different : other ≠ r) (site : Site)
    (reactor : SocketReactor) : (site.put r reactor).reactors other = site.reactors other :=
  if_neg different

@[simp] theorem acceptor_put (site : Site) (r : Nat) (reactor : SocketReactor) :
    (site.put r reactor).acceptor = site.acceptor := rfl

theorem put_put (site : Site) (r : Nat) (first second : SocketReactor) :
    (site.put r second).put r first = site.put r first := by
  simp only [put, Site.mk.injEq, true_and]
  funext other
  by_cases same : other = r <;> simp [same]

theorem put_self (site : Site) (r : Nat) : site.put r (site.reactors r) = site := by
  cases site
  simp only [put, Site.mk.injEq, true_and]
  funext other
  by_cases same : other = r <;> simp [same]

def reactorField (r : Nat) : Field Site SocketReactor where
  get site := site.reactors r
  set reactor site := site.put r reactor
  get_set _ _ := by simp
  set_get site := site.put_self r
  set_set _ _ _ := by simp [put_put]

def onReactor (r : Nat) (body : SocketReactor.Method α) : Method α :=
  Exec.on (reactorField r) body

def pointed (site : Site) (reactor : Option Nat) : Site :=
  { site with acceptor := { site.acceptor with reactor := reactor } }

/-- `SocketAcceptor(socket, reactor)`; without a reactor it is `SocketAcceptor(socket)`. -/
def construct (reactor : Option Nat) : Method Unit := do
  modify fun site => site.pointed reactor
  match reactor with
  | some r =>
      let acceptor := (← get).acceptor
      onReactor r (SocketReactor.addEventHandler acceptor.socket acceptor.observer)
  | none => pure ()

def registerAcceptor (r : Nat) : Method Unit := do
  modify fun site => site.pointed (some r)
  let acceptor := (← get).acceptor
  let has ← onReactor r (SocketReactor.hasEventHandler acceptor.socket acceptor.observer)
  Exec.when (!has) (onReactor r (SocketReactor.addEventHandler acceptor.socket acceptor.observer))

def setReactor (r : Nat) : Method Unit := registerAcceptor r

def unregisterAcceptor : Method Unit := do
  let acceptor := (← get).acceptor
  match acceptor.reactor with
  | some r => onReactor r (SocketReactor.removeEventHandler acceptor.socket acceptor.observer)
  | none => pure ()

/-- `~SocketAcceptor()`. -/
def destroy : Method Unit := Exec.catching unregisterAcceptor fun _ => pure ()

/-- What happens around an acceptor: it is told to register or to unregister, or somebody
makes a call on a reactor that is not about its observer. -/
inductive Act where
  | setReactor (r : Nat)
  | unregisterAcceptor
  | elsewhere (r : Nat) (call : SocketReactor.Call)

def step (site : Site) : Act → Option Site
  | .setReactor r => ((setReactor r).returns site).map Prod.snd
  | .unregisterAcceptor => (unregisterAcceptor.returns site).map Prod.snd
  | .elsewhere r call =>
      if call.update.subject ≠ site.acceptor.observer then
        ((onReactor r call.run).returns site).map Prod.snd
      else none

def Registered (site : Site) (r : Nat) : Prop :=
  site.acceptor.observer ∈ (site.reactors r).registered site.acceptor.socket.sockfd

def Destructible (site : Site) : Prop :=
  ∃ last, destroy.run site = .ok () last ∧ ∀ r, ¬ last.Registered r

def MovesFree (site : Site) : Act → Prop
  | .setReactor r => ∀ other, other ≠ r → ¬ site.Registered other
  | _ => True

/-! What the reactors do. -/

def Fair (recursive : Bool) (site : Site) : Prop :=
  ∀ r, (site.reactors r).Resting recursive

variable {site next : Site} {recursive : Bool} {r other : Nat}

theorem Fair.put (fair : site.Fair recursive) {reactor : SocketReactor}
    (resting : reactor.Resting recursive) : (site.put r reactor).Fair recursive := by
  intro other
  by_cases same : other = r
  · rw [same, reactors_put_self]
    exact resting
  · rw [reactors_put_of_ne same]
    exact fair other

/-- A call on one of the reactors comes back, and updates the registrations there. -/
theorem Fair.call (fair : site.Fair recursive) (r : Nat) (call : SocketReactor.Call) :
    ∃ result reactor, (onReactor r call.run).returns site = some (result, site.put r reactor) ∧
      reactor.Resting recursive ∧
      reactor.registered = call.update.apply (site.reactors r).registered := by
  obtain ⟨_, stepped, resting, registered⟩ := (fair r).step call
  rw [SocketReactor.step, Option.map_eq_some_iff] at stepped
  obtain ⟨⟨result, reactor⟩, returned, rfl⟩ := stepped
  refine ⟨result, reactor, ?_, resting, registered⟩
  unfold Exec.returns at returned ⊢
  rw [onReactor, Exec.run_on, show (reactorField r).get site = site.reactors r from rfl]
  split at returned
  case h_1 ran =>
    cases returned
    rw [ran]
    rfl
  case h_2 ran =>
    cases returned
    rw [ran]
    rfl
  case h_3 => contradiction

theorem registered_put {reactor : SocketReactor} :
    (site.put r reactor).Registered other ↔
      if other = r then
        site.acceptor.observer ∈ reactor.registered site.acceptor.socket.sockfd
      else site.Registered other := by
  split
  case isTrue same =>
    subst same
    rw [Registered, reactors_put_self]
    rfl
  case isFalse different =>
    rw [Registered, reactors_put_of_ne different]
    rfl

theorem Fair.adds (fair : site.Fair recursive) (r : Nat) :
    ∃ result next, (onReactor r (SocketReactor.addEventHandler site.acceptor.socket
        site.acceptor.observer)).returns site = some (result, next) ∧
      next.Fair recursive ∧ next.acceptor = site.acceptor ∧
      ∀ other, next.Registered other ↔ other = r ∨ site.Registered other := by
  obtain ⟨result, reactor, returned, resting, registered⟩ :=
    fair.call r (.add site.acceptor.socket site.acceptor.observer)
  refine ⟨result, _, returned, fair.put resting, rfl, fun other => ?_⟩
  rw [registered_put, registered]
  by_cases same : other = r
  · rw [if_pos same]
    exact iff_of_true Registry.mem_add_self (.inl same)
  · rw [if_neg same]
    exact (or_iff_right same).symm

theorem Fair.removes (fair : site.Fair recursive) (r : Nat) :
    ∃ result next, (onReactor r (SocketReactor.removeEventHandler site.acceptor.socket
        site.acceptor.observer)).returns site = some (result, next) ∧
      next.Fair recursive ∧ next.acceptor = site.acceptor ∧
      ∀ other, next.Registered other ↔ other ≠ r ∧ site.Registered other := by
  obtain ⟨result, reactor, returned, resting, registered⟩ :=
    fair.call r (.remove site.acceptor.socket site.acceptor.observer)
  refine ⟨result, _, returned, fair.put resting, rfl, fun other => ?_⟩
  rw [registered_put, registered]
  by_cases same : other = r
  · rw [if_pos same]
    exact iff_of_false (Registry.not_mem_remove (fair r).distinct) fun kept => kept.1 same
  · rw [if_neg same]
    exact (and_iff_right same).symm

instance (site : Site) (r : Nat) : Decidable (site.Registered r) :=
  inferInstanceAs (Decidable (_ ∈ _))

theorem Fair.asks (fair : site.Fair recursive) (r : Nat) :
    (onReactor r (SocketReactor.hasEventHandler site.acceptor.socket
      site.acceptor.observer)).run site = .ok (decide (site.Registered r)) site := by
  have answered := SocketReactor.run_hasEventHandler (fair r).idle.unlocked
    site.acceptor.socket site.acceptor.observer
  have asked := @Exec.run_on_ok _ _ _ (reactorField r) _ site _ _ answered
  rw [show (reactorField r).set (site.reactors r) site = site from site.put_self r] at asked
  exact asked

theorem Fair.setReactor (fair : site.Fair recursive) (r : Nat) :
    ∃ next, site.step (.setReactor r) = some next ∧ next.Fair recursive ∧
      next.acceptor = (site.pointed (some r)).acceptor ∧
      ∀ other, next.Registered other ↔ other = r ∨ site.Registered other := by
  have moved : (site.pointed (some r)).Fair recursive := fair
  have asked := moved.asks r
  have registers : (registerAcceptor r).returns site =
      (Exec.when (!decide ((site.pointed (some r)).Registered r))
        (onReactor r (SocketReactor.addEventHandler (site.pointed (some r)).acceptor.socket
          (site.pointed (some r)).acceptor.observer))).returns (site.pointed (some r)) := by
    unfold Exec.returns
    simp only [registerAcceptor, EStateM.run_bind, EStateM.run_modify, EStateM.run_get, asked]
  by_cases already : (site.pointed (some r)).Registered r
  · refine ⟨site.pointed (some r), ?_, moved, rfl, fun other => ?_⟩
    · rw [step, Site.setReactor, registers, decide_eq_true already]
      rfl
    · refine (or_iff_right_of_imp ?_).symm
      rintro rfl
      exact already
  · obtain ⟨result, next, returned, kept, same, registered⟩ := moved.adds r
    refine ⟨next, ?_, kept, same, registered⟩
    rw [step, Site.setReactor, registers, decide_eq_false already]
    exact congrArg (Option.map Prod.snd) returned

theorem Fair.unregisterAcceptor (fair : site.Fair recursive) :
    ∃ result next, unregisterAcceptor.returns site = some (result, next) ∧
      next.Fair recursive ∧ next.acceptor = site.acceptor ∧
      ∀ other, next.Registered other ↔
        site.acceptor.reactor ≠ some other ∧ site.Registered other := by
  cases pointer : site.acceptor.reactor with
  | none =>
      refine ⟨.ok (), site, ?_, fair, rfl, fun other => (and_iff_right ?_).symm⟩
      · simp [Exec.returns, Site.unregisterAcceptor, pointer]
      · exact (Option.some_ne_none other).symm
  | some r =>
      obtain ⟨result, next, returned, kept, same, registered⟩ := fair.removes r
      refine ⟨result, next, ?_, kept, same, fun other => ?_⟩
      · rw [← returned]
        unfold Exec.returns
        simp only [Site.unregisterAcceptor, EStateM.run_bind, EStateM.run_get, pointer]
      · rw [registered, ne_eq, ne_eq, Option.some.injEq, eq_comm]

def Sole (site : Site) : Prop :=
  ∀ r, site.Registered r → site.acceptor.reactor = some r

theorem Fair.destructible_iff (fair : site.Fair recursive) : site.Destructible ↔ site.Sole := by
  obtain ⟨result, last, returned, -, -, registered⟩ := fair.unregisterAcceptor
  have ran : destroy.run site = .ok () last := by
    unfold Exec.returns at returned
    rw [destroy, Exec.run_catching]
    split at returned
    case h_1 value next ran =>
      cases returned
      rw [ran]
    case h_2 ran =>
      cases returned
      rw [ran]
      rfl
    case h_3 => contradiction
  constructor
  · rintro ⟨again, other, clean⟩ r member
    cases ran.symm.trans other
    by_contra elsewhere
    exact clean r ((registered r).mpr ⟨elsewhere, member⟩)
  · intro sole
    refine ⟨last, ran, fun r member => ?_⟩
    obtain ⟨elsewhere, before⟩ := (registered r).mp member
    exact elsewhere (sole r before)

theorem Fair.elsewhere (fair : site.Fair recursive) {call : SocketReactor.Call}
    (stepped : site.step (.elsewhere r call) = some next) :
    next.Fair recursive ∧ next.acceptor = site.acceptor ∧
      ∀ other, next.Registered other ↔ site.Registered other := by
  obtain ⟨result, reactor, returned, resting, registered⟩ := fair.call r call
  simp only [step, returned, Option.map_some, Option.ite_none_right_eq_some,
    Option.some.injEq] at stepped
  obtain ⟨foreign, rfl⟩ := stepped
  refine ⟨fair.put resting, rfl, fun other => ?_⟩
  rw [registered_put]
  split
  case isTrue same =>
    rw [registered, Registry.mem_apply_of_ne foreign.symm, same]
    rfl
  case isFalse => rfl

theorem Fair.step (fair : site.Fair recursive) {act : Act} (stepped : site.step act = some next) :
    next.Fair recursive := by
  cases act with
  | setReactor r =>
      obtain ⟨last, reached, kept, -⟩ := fair.setReactor r
      cases stepped.symm.trans reached
      exact kept
  | unregisterAcceptor =>
      obtain ⟨result, last, returned, kept, -⟩ := fair.unregisterAcceptor
      rw [Site.step, returned] at stepped
      cases stepped
      exact kept
  | elsewhere r call => exact (fair.elsewhere stepped).1

theorem Sole.step (sole : site.Sole) (fair : site.Fair recursive) {act : Act}
    (stepped : site.step act = some next) (free : site.MovesFree act) : next.Sole := by
  cases act with
  | setReactor r =>
      obtain ⟨last, reached, -, pointer, registered⟩ := fair.setReactor r
      cases stepped.symm.trans reached
      intro other member
      rcases (registered other).mp member with rfl | before
      · rw [pointer]
        rfl
      · by_contra elsewhere
        refine free other ?_ before
        rintro rfl
        exact elsewhere (congrArg SocketAcceptor.reactor pointer)
  | unregisterAcceptor =>
      obtain ⟨result, last, returned, -, -, registered⟩ := fair.unregisterAcceptor
      rw [Site.step, returned] at stepped
      cases stepped
      intro other member
      obtain ⟨elsewhere, before⟩ := (registered other).mp member
      exact absurd (sole other before) elsewhere
  | elsewhere r call =>
      obtain ⟨-, same, registered⟩ := fair.elsewhere stepped
      intro other member
      rw [same]
      exact sole other ((registered other).mp member)

/-- An acceptor that goes to a reactor while another one has its observer is left behind there. -/
theorem movesFree_of_sole (fair : site.Fair recursive) {act : Act}
    (stepped : site.step act = some next) (sole : next.Sole) : site.MovesFree act := by
  cases act with
  | setReactor r =>
      obtain ⟨last, reached, -, pointer, registered⟩ := fair.setReactor r
      cases stepped.symm.trans reached
      intro other different member
      have pointed := sole other ((registered other).mpr (.inr member))
      rw [pointer] at pointed
      exact different (Option.some.inj pointed).symm
  | unregisterAcceptor | elsewhere => trivial

theorem Fair.constructed (fair : site.Fair recursive) (fresh : ∀ r, ¬ site.Registered r)
    {reactor : Option Nat} {start : Site} (ran : (construct reactor).run site = .ok () start) :
    start.Fair recursive ∧ start.Sole := by
  have moved : (site.pointed reactor).Fair recursive := fair
  cases reactor with
  | none =>
      cases ran
      exact ⟨moved, fun r member => absurd member (fresh r)⟩
  | some r =>
      obtain ⟨result, next, returned, kept, same, registered⟩ := moved.adds r
      have added : (onReactor r
          (SocketReactor.addEventHandler (site.pointed (some r)).acceptor.socket
            (site.pointed (some r)).acceptor.observer)).run (site.pointed (some r)) =
          .ok () start := ran
      rw [Exec.returns, added] at returned
      cases returned
      refine ⟨kept, fun other member => ?_⟩
      rw [same]
      rcases (registered other).mp member with rfl | before
      · rfl
      · exact absurd before (fresh other)

/-- Whatever epoll refuses: an acceptor can be destroyed at any time without leaving its observer
behind if and only if it is told to go to a reactor only while no other one has its observer. -/
theorem destructible_iff_moves_free (fair : site.Fair recursive)
    (fresh : ∀ r, ¬ site.Registered r) {reactor : Option Nat} {start : Site}
    (ran : (construct reactor).run site = .ok () start) (acts : List Act) :
    Runs.Always step Destructible start acts ↔ Runs.Each step MovesFree start acts := by
  obtain ⟨kept, sole⟩ := fair.constructed fresh ran
  exact Runs.always_iff_each (fun site => site.Fair recursive ∧ site.Sole)
    (fun _ _ _ inner stepped free => ⟨inner.1.step stepped, inner.2.step inner.1 stepped free⟩)
    (fun _ inner => inner.1.destructible_iff.mpr inner.2)
    (fun _ _ _ inner stepped destructible => movesFree_of_sole inner.1 stepped
      ((inner.1.step stepped).destructible_iff.mp destructible))
    ⟨kept, sole⟩

/-- An acceptor that is handed from one reactor to another stays registered with the first,
unless it is unregistered before. -/
theorem acceptor_left_behind :
    let site : Site :=
      ⟨⟨7, ⟨100, 3⟩, none⟩, fun _ => SocketReactor.empty false (fun _ => true) Epoll.strict⟩
    ∃ start, (construct (some 0)).run site = .ok () start ∧
      ¬ Runs.Always Site.step Destructible start [.setReactor 1] ∧
      Runs.Always Site.step Destructible start [.unregisterAcceptor, .setReactor 1] := by
  intro site
  have fair : site.Fair false := fun _ => SocketReactor.resting_empty false _ _
  have fresh : ∀ r, ¬ site.Registered r := fun r => by
    simp [Registered, SocketReactor.registered, site, SocketReactor.empty]
  have moved : (site.pointed (some 0)).Fair false := fair
  have returns :
      ((construct (some 0)).returns site).any (fun outcome => outcome.1.isOk) = true := by
    decide +kernel
  obtain ⟨result, start, returned, -, same, registered⟩ := moved.adds 0
  have added : (construct (some 0)).returns site = some (result, start) := returned
  have ran : (construct (some 0)).run site = .ok () start := by
    rw [added] at returns
    unfold Exec.returns at added
    split at added <;> cases added
    · assumption
    · contradiction
  have clean := fun acts => destructible_iff_moves_free fair fresh ran acts
  have member : start.Registered 0 := (registered 0).mpr (.inl rfl)
  have kept := (fair.constructed fresh ran).1
  refine ⟨start, ran, ?_, ?_⟩
  · intro always
    obtain ⟨next, stepped, -⟩ := kept.setReactor 1
    exact (((clean _).mp always) next stepped).1 0 (by decide) member
  · refine (clean _).mpr fun next stepped => ⟨trivial, fun _ _ => ⟨?_, trivial⟩⟩
    intro other different before
    obtain ⟨_, last, left, -, -, after⟩ := kept.unregisterAcceptor
    rw [Site.step, left] at stepped
    cases stepped
    obtain ⟨elsewhere, before⟩ := (after other).mp before
    rcases (registered other).mp before with rfl | unknown
    · exact elsewhere (congrArg SocketAcceptor.reactor same)
    · exact fresh other unknown

end Site

end SocketAcceptor

end TestReactor
