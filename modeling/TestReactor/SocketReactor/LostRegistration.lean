import TestReactor.SocketReactor.Rostered
import TestReactor.SocketReactor.View

namespace TestReactor

namespace SocketReactor

open Function (update)

/-! Threads that register and unregister observers of one socket, each an observer of its
own: whether the registrations come out as they were asked for. -/

abbrev Callers (θ : Type) := Threads.Pool θ SocketReactor Caller

variable {θ : Type} {recursive : Bool}

def Callers.start (reactor : SocketReactor) (calls : θ → Call) : Callers θ where
  shared := reactor
  control thread := ⟨calls thread, .start⟩

def Stage.Ended : Stage → Prop
  | .returned => True
  | .thrown _ => True
  | _ => False

/-- An `addEventHandler` that is to enter its observer, and has not yet. -/
def Caller.Arriving : Caller → Prop
  | ⟨.add _ _, .start⟩ => True
  | ⟨.add _ _, .found _⟩ => True
  | ⟨.add _ _, .absent _⟩ => True
  | _ => False

/-- An observer is entered in the handler of its socket, which nobody is about to erase; and
one that was not alone when it was counted is not the last to be struck out, or another is
on its way. -/
def Orderly (callers : Callers θ) (turn : θ × Unit) : Prop :=
  match callers.control turn.1 with
  | ⟨.add socket _, .absent n⟩ => callers.shared.handlers[socket.sockfd]? = some n ∧
      ∀ other m, (callers.control other).stage ≠ .last m
  | ⟨.remove _ observer, .leaving n false⟩ => callers.shared.observersOf n = [observer] →
      ∃ other, (callers.control other).Arriving
  | _ => True

/-- The observer was added, or was present and has not been removed. -/
def Expected (calls : θ → Call) (present : List Observer) (observer : Observer) : Prop :=
  (∃ thread socket, calls thread = .add socket observer) ∨
    observer ∈ present ∧ ∀ thread socket, calls thread ≠ .remove socket observer

structure NoneLost (calls : θ → Call) (present : List Observer) (socket : SocketRef)
    (reactor : SocketReactor) : Prop where
  has : ∀ observer, ∃ has, (hasEventHandler socket observer).run reactor = .ok has reactor ∧
    (has = true ↔ Expected calls present observer)
  handler : reactor.handlers[socket.sockfd]? ≠ none ↔ ∃ observer, Expected calls present observer

def Occupied (reactor : SocketReactor) : Prop :=
  ∀ fd, reactor.handlers[fd]? ≠ none → reactor.registered fd ≠ []

theorem handlers_addition_of_ne (reactor : SocketReactor) {socket : SocketRef} {fd : Int}
    (other : fd ≠ socket.sockfd) (observer : Observer) :
    ((reactor.arrived socket.sockfd).2.enrolled (reactor.arrived socket.sockfd).1
      observer).handlers[fd]? = reactor.handlers[fd]? := by
  have arrived := congrFun (handlers_arrived reactor socket.sockfd) fd
  rw [Function.update_of_ne other] at arrived
  unfold enrolled
  split
  · exact arrived
  · rw [handlers_enlisted]
    exact arrived

theorem Occupied.forgotten {reactor : SocketReactor} (occupied : reactor.Occupied)
    (socket : SocketRef) (observer : Observer) (pollSet : PollSet) {fd : Int}
    (remains : (reactor.forgotten socket pollSet).handlers[fd]? ≠ none) :
    reactor.registered.remove socket.sockfd observer fd ≠ [] := by
  by_cases same : fd = socket.sockfd
  · subst same
    simp [SocketReactor.forgotten] at remains
  · simp only [SocketReactor.forgotten, getElem?_erase, Ne.symm same, if_false] at remains
    rw [Registry.remove_of_ne same]
    exact occupied fd remains

theorem Occupied.effect {reactor next : SocketReactor} (occupied : reactor.Occupied)
    (sound : reactor.Sound) {call : Call} {ok : Bool} (effect : Effect reactor call next ok) :
    next.Occupied := by
  have registered := registered_effect sound effect
  intro fd remains
  rw [registered]
  cases effect with
  | added socket observer pollSet ok mutex =>
      by_cases same : fd = socket.sockfd
      · subst same
        exact List.ne_nil_of_mem Registry.mem_add_self
      · have kept := handlers_addition_of_ne reactor same observer
        rw [Call.enter, Registry.add_of_ne same]
        exact occupied fd (kept ▸ remains)
  | unlisted socket observer absent =>
      rw [Call.enter, Registry.remove_of_not_mem (listing_eq_none_iff.mp absent)]
      exact occupied fd remains
  | last socket observer n id pollSet listed last mutex =>
      exact occupied.forgotten socket observer pollSet remains
  | more socket observer n id pollSet ok listed more mutex =>
      have kept := handlers_delisted reactor n observer id
      by_cases same : fd = socket.sockfd
      · subst same
        rw [Call.enter, Registry.remove, Registry.put_self]
        exact some_left listed more
      · rw [Call.enter, Registry.remove_of_ne same]
        exact occupied fd (kept ▸ remains)

/-! The callers as the crowd around a roster. -/

def Callers.crowd (callers : Callers θ) (fd : Int) : Roster.Crowd θ Observer where
  shared := callers.shared.roster fd
  control thread := (callers.control thread).stage.place

def errands (calls : θ → Call) : θ → Roster.Errand Observer := fun thread =>
  (calls thread).errand

theorem expected_iff {calls : θ → Call} {present : List Observer} {observer : Observer} :
    Expected calls present observer ↔ (∃ thread, errands calls thread = .join observer) ∨
      observer ∈ present ∧ ∀ thread, errands calls thread ≠ .leave observer := by
  have join : ∀ call : Call, (∃ socket, call = .add socket observer) ↔
      call.errand = .join observer := by
    intro call
    cases call <;> simp [Call.errand]
  have leave : ∀ call : Call, (∃ socket, call = .remove socket observer) ↔
      call.errand = .leave observer := by
    intro call
    cases call <;> simp [Call.errand]
  simp only [Expected, errands, join, ← not_exists, ne_eq]
  simp only [not_exists, ← leave]

section Run

variable {calls : θ → Call} {callers next : Callers θ} {fd : Int} {turn : θ × Unit}

structure Sane (recursive : Bool) (calls : θ → Call) (callers : Callers θ) : Prop where
  call : ∀ thread, (callers.control thread).call = calls thread
  idle : callers.shared.Idle recursive none
  sound : callers.shared.Sound
  number : ∀ thread n, (callers.control thread).stage.place.number = some n →
    n < callers.shared.notifierCount

theorem Sane.step [DecidableEq θ] (sane : Sane recursive calls callers)
    (one : ∀ thread, (calls thread).sockfd = fd)
    (stepped : Threads.step act callers turn = some next) :
    Sane recursive calls next ∧
      ((∃ place, (callers.crowd fd).shared.Moves (errands calls turn.1)
          ((callers.crowd fd).control turn.1) (next.crowd fd).shared place ∧
        (next.crowd fd).control = update (callers.crowd fd).control turn.1 place) ∨
      next.crowd fd = callers.crowd fd ∧
        ((callers.crowd fd).control turn.1).past = true) := by
  obtain ⟨thread, ⟨⟩⟩ := turn
  obtain ⟨shared, control, acted, rfl⟩ := Threads.step_eq_some_iff.mp stepped
  have called := sane.call thread
  have number := sane.number thread
  cases caller : callers.control thread with
  | mk call stage =>
      rw [caller] at acted called number
      have called : call = calls thread := called
      subst called
      have made : ∀ n, stage = .absent n → n < callers.shared.notifierCount := by
        rintro n rfl
        exact number n rfl
      obtain ⟨stage', rfl, acts⟩ := acts_of_act sane.idle sane.sound made acted
      have control : (Callers.crowd ⟨shared, update callers.control thread
          ⟨calls thread, stage'⟩⟩ fd).control =
          update (callers.crowd fd).control thread stage'.place := by
        funext other
        by_cases same : other = thread <;> simp [Callers.crowd, same]
      have place : (callers.crowd fd).control thread = stage.place := by
        simp only [Callers.crowd, caller]
      have advances := acts.advances
      rw [Advances, one thread] at advances
      have numbers : callers.shared.notifierCount ≤ shared.notifierCount ∧
          ∀ n, stage'.place.number = some n → n < shared.notifierCount := by
        rcases advances with moves | ⟨roster, place, -⟩
        · exact moves.number (fun n found => (sane.sound.keyed fd n found).1) number
        · have made : shared.notifierCount = callers.shared.notifierCount :=
            congrArg Roster.made roster
          rw [place, made]
          exact ⟨Nat.le_refl _, number⟩
      refine ⟨⟨?_, acts.idle, acts.sound, ?_⟩, ?_⟩
      · intro other
        by_cases same : other = thread
        · simp [same]
        · simpa [same] using sane.call other
      · intro other n held
        by_cases same : other = thread
        · subst same
          exact numbers.2 n (by simpa using held)
        · exact Nat.lt_of_lt_of_le (sane.number other n (by simpa [same] using held)) numbers.1
      · rw [place]
        rcases advances with moves | ⟨roster, still, past⟩
        · exact .inl ⟨stage'.place, moves, control⟩
        · refine .inr ⟨Threads.Pool.ext roster (control.trans ?_), past⟩
          rw [still, ← place, Function.update_eq_self]

theorem place_eq_last {stage : Stage} {n : Nat} : stage.place = .last n ↔ stage = .last n := by
  cases stage <;> simp [Stage.place]

theorem Caller.arriving_iff {caller : Caller} {roster : Roster Observer}
    (fits : roster.Fits caller.call.errand caller.stage.place) :
    caller.Arriving ↔ Roster.Arriving caller.call.errand caller.stage.place := by
  obtain ⟨call, stage⟩ := caller
  cases call with
  | add socket observer =>
      cases stage with
      | start | found | absent => exact iff_of_true trivial ⟨⟨observer, rfl⟩, rfl⟩
      | listed | last | erased => exact fits.elim
      | leaving n alone => cases alone <;> exact fits.elim
      | left | asking | returned | thrown =>
          exact iff_of_false id fun arriving => Bool.false_ne_true arriving.2.symm
  | remove socket observer =>
      refine iff_of_false ?_ ?_
      · cases stage <;> exact id
      · rintro ⟨⟨_, impossible⟩, _⟩
        contradiction

theorem orderly_iff (sane : Sane recursive calls callers)
    (one : ∀ thread, (calls thread).sockfd = fd) {present : List Observer}
    (tended : Roster.Tended (errands calls) present (callers.crowd fd)) (turn : θ × Unit) :
    Orderly callers turn ↔ Roster.Orderly (errands calls) (callers.crowd fd) turn.1 := by
  obtain ⟨thread, ⟨⟩⟩ := turn
  have errand : ∀ other, errands calls other = (callers.control other).call.errand := by
    intro other
    rw [errands, sane.call]
  have fits : ∀ other, (callers.shared.roster fd).Fits (callers.control other).call.errand
      (callers.control other).stage.place := by
    intro other
    rw [← errand]
    exact tended.fits other
  have same : (callers.control thread).call.sockfd = fd := by rw [sane.call, one]
  have last : (∀ other m, (callers.control other).stage ≠ .last m) ↔
      ∀ other m, (callers.crowd fd).control other ≠ .last m :=
    forall_congr' fun _ => forall_congr' fun _ => not_congr place_eq_last.symm
  have arriving : (∃ other, (callers.control other).Arriving) ↔
      ∃ other, Roster.Arriving (errands calls other) ((callers.crowd fd).control other) := by
    simp only [errand]
    exact exists_congr fun other => Caller.arriving_iff (fits other)
  have own := fits thread
  have place : (callers.crowd fd).control thread = (callers.control thread).stage.place := rfl
  simp only [Orderly, last, arriving]
  cases caller : callers.control thread with
  | mk call stage =>
      rw [caller] at own same place
      have value : (errands calls thread).value = call.observer := by
        rw [errand, caller, value_errand]
      cases call with
      | add socket observer =>
          cases stage with
          | absent n =>
              subst same
              refine ⟨fun enters => ⟨?_, ?_⟩, fun orderly => orderly.enters n place⟩
              · intro m absent
                cases place.symm.trans absent
                exact enters
              · intro m leaving
                cases place.symm.trans leaving
          | listed | last | erased => exact own.elim
          | leaving n alone => cases alone <;> exact own.elim
          | start | found | left | asking | returned | thrown =>
              refine iff_of_true trivial (Roster.orderly_of_ne ?_ ?_) <;>
                · intro m other
                  cases place.symm.trans other
      | remove socket observer =>
          cases stage with
          | absent n => exact own.elim
          | leaving n alone =>
              cases alone with
              | false =>
                  refine ⟨fun strikes => ⟨?_, ?_⟩, fun orderly single => ?_⟩
                  · intro m absent
                    cases place.symm.trans absent
                  · intro m leaving single
                    cases place.symm.trans leaving
                    rw [value] at single
                    exact strikes single
                  · apply orderly.strikes n place
                    rw [value]
                    exact single
              | true => exact iff_of_true trivial (Roster.orderly_of_past (congrArg _ place))
          | start | found | listed | last | erased | left | asking | returned | thrown =>
              refine iff_of_true trivial (Roster.orderly_of_ne ?_ ?_) <;>
                · intro m other
                  cases place.symm.trans other

theorem run_hasEventHandler {reactor : SocketReactor} (unlocked : reactor.Unlocked)
    (socket : SocketRef) (observer : Observer) :
    (hasEventHandler socket observer).run reactor =
      .ok (decide (observer ∈ reactor.registered socket.sockfd)) reactor := by
  cases found : reactor.handlers[socket.sockfd]? with
  | none =>
      have absent : observer ∉ reactor.registered socket.sockfd := by
        simp [registered_absent found]
      simp only [hasEventHandler, EStateM.run_bind, run_getNotifier_absent unlocked found,
        EStateM.run_pure, absent, decide_false]
  | some n =>
      simp only [hasEventHandler, EStateM.run_bind, run_getNotifier_found unlocked found false,
        run_hasObserver n observer unlocked, registered_found found]

theorem noneLost_iff (sane : Sane recursive calls callers) (socket : SocketRef)
    (present : List Observer) :
    NoneLost calls present socket callers.shared ↔
      Roster.Kept (errands calls) present (callers.crowd socket.sockfd).shared := by
  have has : ∀ observer,
      (∃ has, (hasEventHandler socket observer).run callers.shared = .ok has callers.shared ∧
        (has = true ↔ Expected calls present observer)) ↔
      (observer ∈ (callers.crowd socket.sockfd).shared.members ↔
        Expected calls present observer) := by
    intro observer
    rw [run_hasEventHandler sane.idle.unlocked]
    simp only [EStateM.Result.ok.injEq, and_true]
    rw [exists_eq_left', decide_eq_true_iff]
    exact Iff.rfl.trans (by rw [← members_roster]; rfl)
  constructor
  · rintro ⟨members, handler⟩
    simp only [expected_iff] at has members handler
    exact ⟨fun observer => (has observer).mp (members observer), handler⟩
  · rintro ⟨members, entry⟩
    refine ⟨fun observer => (has observer).mpr ?_, ?_⟩
    · rw [expected_iff]
      exact members observer
    · simp only [expected_iff]
      exact entry

theorem ended_iff {stage : Stage} (ended : stage.Ended) : stage.place = .done := by
  cases stage with
  | returned | thrown => rfl
  | _ => exact ended.elim

theorem tended_crowd_start {reactor : SocketReactor} (sound : reactor.Sound)
    (distinct : reactor.registered.Distinct) (occupied : reactor.Occupied) (calls : θ → Call)
    (fd : Int) :
    Roster.Tended (errands calls) (reactor.registered fd)
      ((Callers.start reactor calls).crowd fd) := by
  have members := members_roster reactor fd
  have made : ∀ n, (reactor.roster fd).entry = some n → n < (reactor.roster fd).made :=
    fun n found => (sound.keyed fd n found).1
  have tended := Roster.tended_start made (members ▸ distinct fd)
    (fun remains => members ▸ occupied fd remains) (errands calls)
  rw [members] at tended
  exact tended

/-- No registration is lost in just those runs whose steps are orderly. -/
theorem noneLost_iff_orderly [DecidableEq θ] {reactor : SocketReactor}
    (idle : reactor.Idle recursive none) (sound : reactor.Sound)
    (distinct : reactor.registered.Distinct) (occupied : reactor.Occupied)
    (calls : θ → Call) (socket : SocketRef) (one : ∀ thread, (calls thread).sockfd = socket.sockfd)
    (own : Function.Injective fun thread => (calls thread).observer)
    (turns : List (θ × Unit)) {last : Callers θ}
    (reached : Runs.exec (Threads.step act) (Callers.start reactor calls) turns = some last)
    (ended : ∀ thread, (last.control thread).stage.Ended) :
    NoneLost calls (reactor.registered socket.sockfd) socket last.shared ↔
      Runs.Each (Threads.step act) Orderly (Callers.start reactor calls) turns := by
  let fd := socket.sockfd
  let present := reactor.registered fd
  let inner (callers : Callers θ) : Prop := Sane recursive calls callers ∧
    Roster.Tended (errands calls) present (callers.crowd fd)
  let broken (callers : Callers θ) : Prop := Sane recursive calls callers ∧
    (Roster.Lost (errands calls) (callers.crowd fd) ∨
      Roster.Deserted (errands calls) (callers.crowd fd))
  have values : Function.Injective fun thread => (errands calls thread).value := by
    simpa [errands] using own
  have start : inner (Callers.start reactor calls) :=
    ⟨⟨fun _ => rfl, idle, sound, fun _ _ => by rintro ⟨⟩⟩,
      tended_crowd_start sound distinct occupied calls fd⟩
  apply Runs.holds_iff_each inner broken ?_ ?_ ?_ start reached ?_ ?_
  · rintro callers turn next ⟨sane, tended⟩ stepped orderly
    obtain ⟨kept, ⟨place, moves, control⟩ | ⟨same, _⟩⟩ := sane.step one stepped
    · refine ⟨kept, ?_⟩
      have tended := tended.moves values moves ((orderly_iff sane one tended turn).mp orderly)
      rw [← control] at tended
      exact tended
    · refine ⟨kept, ?_⟩
      rw [same]
      exact tended
  · rintro callers turn next ⟨sane, tended⟩ stepped disorderly
    have disorderly := mt (orderly_iff sane one tended turn).mpr disorderly
    obtain ⟨kept, ⟨place, moves, control⟩ | ⟨same, past⟩⟩ := sane.step one stepped
    · refine ⟨kept, ?_⟩
      have broke := tended.breaks values moves disorderly
      rw [← control] at broke
      exact broke
    · exact absurd (Roster.orderly_of_past past) disorderly
  · rintro callers turn next ⟨sane, broke⟩ stepped
    obtain ⟨kept, ⟨place, moves, control⟩ | ⟨same, _⟩⟩ := sane.step one stepped
    · refine ⟨kept, ?_⟩
      have broke := broke.imp (fun lost => lost.moves values moves)
        (fun deserted => deserted.moves moves)
      rw [← control] at broke
      exact broke
    · refine ⟨kept, ?_⟩
      rw [same]
      exact broke
  · rintro ⟨sane, tended⟩
    rw [noneLost_iff sane]
    exact tended.kept values fun thread => ended_iff (ended thread)
  · rintro ⟨sane, broke⟩
    rw [noneLost_iff sane]
    rcases broke with lost | deserted
    · exact lost.not_kept fun thread => ended_iff (ended thread)
    · exact deserted.not_kept

/-! Two threads on one socket: one adds an observer and the other removes the one that was
there, or both remove one. -/

section Pair

def observer3 (object : Nat) : Observer := .onSocket object .readable 0

def pair : Bool → Call
  | true => .add ⟨100, 3⟩ (observer3 1)
  | false => .remove ⟨100, 3⟩ (observer3 0)

def attended : SocketReactor :=
  ((empty true (fun _ => true) Epoll.strict).outcome (.add ⟨100, 3⟩ (observer3 0))).2

theorem ready_attended : attended.Ready none := (ready_empty _ _).outcome _

theorem expected_pair (observer : Observer) :
    Expected pair (attended.registered 3) observer ↔ observer = observer3 1 := by
  have present : attended.registered 3 = [observer3 0] := rfl
  rw [present]
  constructor
  · rintro (⟨thread, socket, same⟩ | ⟨member, spared⟩)
    · cases thread with
      | true =>
          cases same
          rfl
      | false => cases same
    · rw [List.mem_singleton.mp member] at spared
      exact absurd rfl (spared false ⟨100, 3⟩)
  · rintro rfl
    exact .inl ⟨true, ⟨100, 3⟩, rfl⟩

def apart : List (Bool × Unit) :=
  (List.replicate 7 true ++ List.replicate 9 false).map fun thread => (thread, ())

theorem noneLost_iff_orderly_apart :
    ∃ last, Runs.exec (Threads.step act) (Callers.start attended pair) apart = some last ∧
      NoneLost pair (attended.registered 3) ⟨100, 3⟩ last.shared ∧
      Runs.Each (Threads.step act) Orderly (Callers.start attended pair) apart := by
  have one : ∀ thread, (pair thread).sockfd = 3 := by decide
  have own : Function.Injective fun thread => (pair thread).observer := by
    intro first second
    revert first second
    decide
  have nobody : (empty true (fun _ => true) Epoll.strict).Occupied := by
    intro fd remains
    exact absurd Std.TreeMap.getElem?_emptyc remains
  have occupied : attended.Occupied := nobody.effect (ready_empty _ _).sound
    (effect_outcome (ready_empty _ _).idle.unlocked (ready_empty _ _).idle.recursive_cell _)
  have checked : (Runs.exec (Threads.step act) (Callers.start attended pair) apart).any
      (fun last => (∀ thread, (last.control thread).stage = .returned) ∧
        last.shared.handlers[(3 : Int)]? = some 0 ∧
        last.shared.registered 3 = [observer3 1]) = true := by
    decide +kernel
  obtain ⟨last, reached, checked⟩ := (Option.any_eq_true _ _).mp checked
  obtain ⟨returned, handler, registered⟩ := of_decide_eq_true checked
  have start : Sane true pair (Callers.start attended pair) :=
    ⟨fun _ => rfl, ready_attended.idle, ready_attended.sound, fun _ _ => by rintro ⟨⟩⟩
  have sane : Sane true pair last :=
    Runs.exec_keeps (Sane true pair) (fun _ _ _ sane stepped => (sane.step one stepped).1) start
      reached
  have kept : NoneLost pair (attended.registered 3) ⟨100, 3⟩ last.shared := by
    refine ⟨fun observer => ⟨_, run_hasEventHandler sane.idle.unlocked _ observer, ?_⟩, ?_⟩
    · rw [decide_eq_true_iff, expected_pair, registered, List.mem_singleton]
    · simp [expected_pair, handler]
  refine ⟨last, reached, kept, ?_⟩
  apply (noneLost_iff_orderly ready_attended.idle ready_attended.sound ready_attended.distinct
    occupied pair ⟨100, 3⟩ one own apart reached ?_).mp kept
  intro thread
  rw [returned]
  trivial

/-- Two observers of one socket, and the call that removes each. -/
def doubled : SocketReactor := (attended.outcome (.add ⟨100, 3⟩ (observer3 1))).2

def leavers (thread : Bool) : Call := .remove ⟨100, 3⟩ (observer3 thread.toNat)

/-- Both count two observers, and so neither erases the handler. -/
theorem handler_outlasts_observers :
    ∃ last, Runs.exec (Threads.step act) (Callers.start doubled leavers)
        ((List.replicate 3 true ++ List.replicate 4 false ++ List.replicate 2 true ++ [false]).map
          fun thread => (thread, ())) = some last ∧
      (∀ thread, (last.control thread).stage = .returned) ∧
      ¬ NoneLost leavers (doubled.registered 3) ⟨100, 3⟩ last.shared := by
  have checked : (Runs.exec (Threads.step act) (Callers.start doubled leavers)
      ((List.replicate 3 true ++ List.replicate 4 false ++ List.replicate 2 true ++ [false]).map
        fun thread => (thread, ()))).any
      (fun last => (∀ thread, (last.control thread).stage = .returned) ∧
        last.shared.handlers[(3 : Int)]? = some 0) = true := by
    decide +kernel
  obtain ⟨last, reached, checked⟩ := (Option.any_eq_true _ _).mp checked
  obtain ⟨returned, handler⟩ := of_decide_eq_true checked
  refine ⟨last, reached, returned, fun kept => ?_⟩
  have remains : last.shared.handlers[(3 : Int)]? ≠ none := by
    rw [handler]
    exact Option.some_ne_none _
  have present : doubled.registered 3 = [observer3 0, observer3 1] := rfl
  obtain ⟨observer, expected⟩ := kept.handler.mp remains
  rcases expected with ⟨thread, socket, same⟩ | ⟨member, spared⟩
  · cases same
  · rw [present] at member
    rcases List.mem_pair.mp member with rfl | rfl
    · exact spared false ⟨100, 3⟩ rfl
    · exact spared true ⟨100, 3⟩ rfl

end Pair

end Run

end SocketReactor

end TestReactor
