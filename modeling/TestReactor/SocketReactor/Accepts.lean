import TestReactor.Census
import TestReactor.Runs
import TestReactor.SocketReactor.Locks
import TestReactor.SocketReactor.View

namespace TestReactor

namespace SocketReactor

namespace SocketNotifier

/-! What `accepts` says of the four notifications that a notifier counts its observers
under, against the observers in its notification centre. -/

inductive Call where
  | add (observer : Observer)
  | remove (observer : Observer)
  deriving DecidableEq, Repr

def Call.run (n : Nat) : Call → Method Unit
  | .add observer => addObserver n observer
  | .remove observer => removeObserver n observer

variable {reactor next : SocketReactor} {recursive : Bool} {n : Nat}

def step (n : Nat) (reactor : SocketReactor) (call : Call) : Option SocketReactor :=
  ((call.run n).returns reactor).map Prod.snd

def kinds : List SocketNotification := [.readable, .writable, .error, .timeout]

/-- `accepts` finds each of the four notifications exactly when some observer in the
centre accepts it. -/
def TellsTruth (n : Nat) (reactor : SocketReactor) : Prop :=
  ∀ notification ∈ kinds,
    (accepts n (reactor.pointer notification)).run reactor =
      .ok ((reactor.observersOf n).any (·.accepts (reactor.pointer notification))) reactor

def census (reactor : SocketReactor) (n : Nat) : Census Observer (Option SocketNotification) where
  members := reactor.observersOf n
  marks := (reactor.notifiers n).events

/-- The condition under which a call keeps `accepts` true. -/
def Call.Balanced (n : Nat) (reactor : SocketReactor) : Call → Prop
  | .add observer =>
      Census.Covered (eventOf reactor) Observer.accepts (kinds.map reactor.pointer)
        (reactor.observersOf n) observer
  | .remove observer =>
      (census reactor n).Dispensable (eventOf reactor) Observer.accepts
        (kinds.map reactor.pointer) observer

theorem tellsTruth_iff (free : (reactor.notifiers n).mutex.Lockable) :
    TellsTruth n reactor ↔
      (census reactor n).Truthful Observer.accepts (kinds.map reactor.pointer) := by
  simp only [TellsTruth, Census.Truthful, List.forall_mem_map]
  refine forall₂_congr fun notification _ => ?_
  rw [run_accepts n _ free, EStateM.Result.ok.injEq, Bool.eq_iff_iff, List.contains_iff_mem,
    List.any_eq_true]
  simp only [and_true]
  rfl

theorem accepts_of_eventOf {observer : Observer} {event : Option SocketNotification}
    (first : eventOf reactor observer = some event) : observer.accepts event :=
  List.find?_some first

/-! The reactor after a call. -/

def after (n : Nat) (reactor : SocketReactor) : Call → SocketReactor
  | .add observer => reactor.enlisted n observer
  | .remove observer =>
      match NotificationCenter.find reactor n observer with
      | some id => reactor.delisted n observer id
      | none => reactor.withEvents n (reactor.excluding observer)

theorem run_call (idle : reactor.Idle recursive none) (call : Call) :
    (call.run n).run reactor = .ok () (after n reactor call) := by
  cases call with
  | add observer => exact run_addObserver n observer idle.unlocked
  | remove observer =>
      rw [Call.run, after]
      split
      case h_1 id found =>
        exact run_removeObserver_ok idle.unlocked found (idle.free_cell id)
      case h_2 absent =>
        rw [run_removeObserver_none idle.unlocked absent]
        apply congrArg (EStateM.Result.ok ())
        unfold excluding
        cases eventOf reactor observer with
        | some event => rfl
        | none => exact (reactor.putNotifier_self n).symm

/-- What a reactor is between two calls on its notifier `n`. -/
structure Ready (recursive : Bool) (n : Nat) (reactor : SocketReactor) : Prop where
  idle : reactor.Idle recursive none
  sound : reactor.Sound
  made : n < reactor.notifierCount

theorem step_eq (ready : Ready recursive n reactor) (call : Call) :
    step n reactor call = some (after n reactor call) := by
  simp only [step, Exec.returns, run_call ready.idle, Option.map_some]

theorem notifierCount_after (n : Nat) (reactor : SocketReactor) (call : Call) :
    (after n reactor call).notifierCount = reactor.notifierCount := by
  unfold after enlisted delisted
  repeat' split
  all_goals rfl

theorem owns_after (n : Nat) (reactor : SocketReactor) (call : Call) :
    (after n reactor call).owns = reactor.owns := by
  unfold after enlisted delisted
  repeat' split
  all_goals rfl

theorem Ready.after (ready : Ready recursive n reactor) (call : Call) :
    Ready recursive n (after n reactor call) := by
  suffices kept : (SocketNotifier.after n reactor call).Idle recursive none ∧
      (SocketNotifier.after n reactor call).Sound by
    exact ⟨kept.1, kept.2, notifierCount_after n reactor call ▸ ready.made⟩
  cases call with
  | add observer =>
      exact ⟨ready.idle.enlisted n observer, ready.sound.enlisted ready.made observer⟩
  | remove observer =>
      rw [SocketNotifier.after]
      split
      case h_1 id _ =>
        exact ⟨ready.idle.delisted n observer id, ready.sound.delisted n observer id⟩
      case h_2 =>
        exact ⟨ready.idle.withEvents n _,
          ready.sound.putNotifier n _ rfl (List.Sublist.refl _)⟩

theorem enter_census (reactor : SocketReactor) (n : Nat) (observer : Observer) :
    (census reactor n).enter (eventOf reactor) observer =
      ⟨reactor.observersOf n ++ [observer],
        reactor.including observer (reactor.notifiers n).events⟩ := by
  unfold Census.enter including
  cases eventOf reactor observer <;> rfl

theorem strike_census (reactor : SocketReactor) (n : Nat) (observer : Observer) :
    (census reactor n).strike (eventOf reactor) observer =
      ⟨(reactor.observersOf n).erase observer,
        reactor.excluding observer (reactor.notifiers n).events⟩ := by
  unfold Census.strike excluding
  cases eventOf reactor observer <;> rfl

theorem census_added (sound : reactor.Sound) (observer : Observer) :
    census (after n reactor (.add observer)) n =
      (census reactor n).enter (eventOf reactor) observer := by
  rw [enter_census, after, census, observersOf_enlisted sound, events_enlisted, if_pos rfl,
    if_pos rfl]

theorem census_removed (sound : reactor.Sound) (observer : Observer) :
    census (after n reactor (.remove observer)) n =
      (census reactor n).strike (eventOf reactor) observer := by
  rw [strike_census, after]
  split
  case h_1 id found =>
    rw [census, observersOf_delisted sound found, events_delisted, if_pos rfl, if_pos rfl]
  case h_2 absent =>
    rw [List.erase_of_not_mem (find_eq_none_iff.mp absent)]
    simp [census, observersOf, withEvents, putNotifier]

theorem tellsTruth_after_iff (ready : Ready recursive n reactor)
    (truthful : TellsTruth n reactor) (call : Call) :
    TellsTruth n (after n reactor call) ↔ call.Balanced n reactor := by
  have pointer : (after n reactor call).pointer = reactor.pointer := by
    funext notification
    rw [SocketReactor.pointer, owns_after, SocketReactor.pointer]
  rw [tellsTruth_iff (ready.idle.unlocked.notifier n)] at truthful
  rw [tellsTruth_iff ((ready.after call).idle.unlocked.notifier n), pointer]
  cases call with
  | add observer =>
      rw [census_added ready.sound]
      exact Census.truthful_enter_iff (fun _ => accepts_of_eventOf) truthful
  | remove observer =>
      rw [census_removed ready.sound]
      exact Census.truthful_strike_iff truthful

theorem tellsTruth_created (idle : reactor.Idle recursive none)
    (sockfd : Int) : TellsTruth reactor.notifierCount (reactor.created sockfd) := by
  have unlocked := (idle.created sockfd).unlocked
  rw [tellsTruth_iff (unlocked.notifier _)]
  intro key _
  simp [census, observersOf, created, Notifier.new]

theorem ready_created (idle : reactor.Idle recursive none) (sound : reactor.Sound)
    (sockfd : Int) : Ready recursive reactor.notifierCount (reactor.created sockfd) :=
  ⟨idle.created sockfd, sound.created sockfd, Nat.lt_succ_self _⟩

/-- From a new notifier on, `accepts` tells the truth after each call exactly when every call
is balanced. -/
theorem tellsTruth_iff_balanced (idle : reactor.Idle recursive none) (sound : reactor.Sound)
    (sockfd : Int) (calls : List Call) :
    Runs.Always (step reactor.notifierCount) (TellsTruth reactor.notifierCount)
        (reactor.created sockfd) calls ↔
      Runs.Each (step reactor.notifierCount)
        (fun state call => call.Balanced reactor.notifierCount state)
        (reactor.created sockfd) calls := by
  apply Runs.always_iff_each
    (fun state => Ready recursive reactor.notifierCount state ∧
      TellsTruth reactor.notifierCount state)
  case keep =>
    rintro state call next ⟨ready, truthful⟩ stepped balanced
    cases (step_eq ready call).symm.trans stepped
    exact ⟨ready.after call, (tellsTruth_after_iff ready truthful call).mpr balanced⟩
  case safe => exact fun _ inner => inner.2
  case breaks =>
    rintro state call next ⟨ready, truthful⟩ stepped told
    cases (step_eq ready call).symm.trans stepped
    exact (tellsTruth_after_iff ready truthful call).mp told
  case start => exact ⟨ready_created idle sound sockfd, tellsTruth_created idle sockfd⟩

theorem tellsTruth_iff_balanced_readable :
    let reactor : SocketReactor := .empty false (fun _ => true) Epoll.obliging
    Runs.Always (step 0) (TellsTruth 0) (reactor.created 3)
      [.add (.onSocket 0 .readable 0), .remove (.onSocket 0 .readable 0)] := by
  intro reactor
  have ready := ready_created (idle_empty false (fun _ => true) Epoll.obliging)
    (sound_empty false _ _) 3
  refine (tellsTruth_iff_balanced (idle_empty false _ _) (sound_empty false _ _) 3 _).mpr ?_
  intro next stepped
  cases (step_eq ready _).symm.trans stepped
  refine ⟨by unfold Call.Balanced Census.Covered; decide +kernel, ?_⟩
  intro last _
  refine ⟨?_, trivial⟩
  unfold Call.Balanced Census.Dispensable Census.Covered
  decide +kernel

/-- Removing an observer that was never added, or adding one for a base class, is enough. -/
theorem stranger_hides_observer :
    let reactor : SocketReactor := .empty false (fun _ => true) Epoll.obliging
    ¬ Runs.Always (step 0) (TellsTruth 0) (reactor.created 3)
        [.add (.onSocket 0 .readable 0), .remove (.onSocket 1 .readable 0)] ∧
      ¬ Runs.Always (step 0) (TellsTruth 0) (reactor.created 3)
        [.add ⟨.nObserver, 0, .socketNotification, some 0, 0⟩] := by
  intro reactor
  have ready := ready_created (idle_empty false (fun _ => true) Epoll.obliging)
    (sound_empty false _ _) 3
  have truthful := tellsTruth_created (idle_empty false (fun _ => true) Epoll.obliging) 3
  constructor
  · intro always
    obtain ⟨first, rest⟩ := always _ (step_eq ready _)
    have balanced := (tellsTruth_after_iff (ready.after _) first _).mp
      (rest _ (step_eq (ready.after _) _)).1
    unfold Call.Balanced Census.Dispensable Census.Covered at balanced
    revert balanced
    decide +kernel
  · intro always
    have balanced := (tellsTruth_after_iff ready truthful _).mp (always _ (step_eq ready _)).1
    unfold Call.Balanced Census.Covered at balanced
    revert balanced
    decide +kernel

end SocketNotifier

end SocketReactor

end TestReactor
