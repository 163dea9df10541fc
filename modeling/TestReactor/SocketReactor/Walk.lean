import TestReactor.SocketReactor.Growth
import TestReactor.SocketReactor.Locks
import TestReactor.TwoState

namespace TestReactor

namespace SocketReactor

/-! The induction over a session, done once: what the calls and the callbacks of a
session keep, every dispatch keeps. -/

namespace Session

/-- `told` relates the log of a session to its reactor, whenever no call is under
way; `ended` is what the log of a session that stops for good satisfies. -/
structure Conduct (recursive : Bool) (told : List Event → SocketReactor → Prop)
    (ended : Stop → List Event → Prop) : Prop where
  locked : ∀ {log reactor id mutex}, told log reactor →
    told log ((SocketReactor.observerMutex id).set mutex reactor)
  call : ∀ {log reactor next held call ok}, reactor.Idle recursive held → reactor.Sound →
    told log reactor → ¬ reactor.LocksOut call → Effect reactor call next ok →
    told (log ++ .calling call held reactor :: if ok then [.returned call] else []) next
  stuck : ∀ {log reactor held call}, reactor.Idle recursive held → told log reactor →
    reactor.LocksOut call → ended .deadlock (log ++ [.calling call held reactor])
  invoked : ∀ {log reactor n id} notification, reactor.Sound → told log reactor →
    n < reactor.notifierCount → id ∈ (reactor.notifiers n).observers →
    (reactor.cells id).observer.object ≠ none →
    told (log ++ [.invoked (reactor.notifiers n).socket (reactor.cells id).observer
      notification]) reactor
  polled : ∀ {log reactor} pollSet, told log reactor → told log (reactor.withPollSet pollSet)

/-- A conduct that covers the crashes of a session too. -/
structure Discipline (recursive : Bool) (told : List Event → SocketReactor → Prop)
    (ended : Stop → List Event → Prop) : Prop extends Conduct recursive told ended where
  crashed : ∀ {log reactor stop}, told log reactor → stop ≠ .deadlock → ended stop log

variable {recursive : Bool} {told : List Event → SocketReactor → Prop}
  {ended : Stop → List Event → Prop}

def guarantee (recursive : Bool) (told : List Event → SocketReactor → Prop)
    (ended : Stop → List Event → Prop) (held : Option Nat) : Guarantee Session where
  holds session := session.reactor.Idle recursive held ∧ session.reactor.Sound ∧
    told session.log session.reactor
  leads first second := Grows first.reactor second.reactor
  ended stop session := ended stop session.log
  refl session := .refl session.reactor
  trans first second := first.trans second

variable {session : Session} {held : Option Nat}

theorem run_perform_ok {call : Call} {next : SocketReactor}
    (ran : call.run.run session.reactor = .ok () next) :
    (perform held call).run session = .ok () { session with
      reactor := next
      log := session.log ++ [.calling call held session.reactor, .returned call] } := by
  simp [perform, record, onReactor, Exec.run_catching, Exec.run_on, reactorField, ran]

theorem run_perform_throw {call : Call} {next : SocketReactor} {what : String}
    (ran : call.run.run session.reactor = .error (.throw what) next) :
    (perform held call).run session = .ok () { session with
      reactor := next
      log := session.log ++ [.calling call held session.reactor] } := by
  simp [perform, record, onReactor, Exec.run_catching, Exec.run_on, reactorField, ran]

theorem run_perform_deadlock {call : Call} {next : SocketReactor}
    (ran : call.run.run session.reactor = .error .deadlock next) :
    (perform held call).run session = .error .deadlock { session with
      reactor := next
      log := session.log ++ [.calling call held session.reactor] } := by
  simp [perform, record, onReactor, Exec.run_catching, Exec.run_on, reactorField, ran]

theorem ensures_perform (conduct : Conduct recursive told ended)
    (holds : (guarantee recursive told ended held).holds session) (call : Call) :
    (guarantee recursive told ended held).Ensures (perform held call) session := by
  obtain ⟨idle, sound, kept⟩ := holds
  rcases effect_of_run idle.unlocked call with ⟨stuck, next, ran⟩ | ⟨free, next, ok, comes, effect⟩
  · exact (Exec.ends_of_error (run_perform_deadlock ran)).mpr (conduct.stuck idle kept stuck)
  · have after := conduct.call idle sound kept free effect
    cases ok with
    | true =>
        exact (Exec.ends_of_ok (run_perform_ok comes)).mpr
          ⟨⟨idle.effect effect, sound.effect effect, after⟩, .effect effect⟩
    | false =>
        obtain ⟨what, thrown⟩ := comes
        exact (Exec.ends_of_ok (run_perform_throw thrown)).mpr
          ⟨⟨idle.effect effect, sound.effect effect, after⟩, .effect effect⟩

theorem ensures_callBack (conduct : Conduct recursive told ended)
    {n id : Nat} (holds : (guarantee recursive told ended (some id)).holds session)
    (made : n < session.reactor.notifierCount)
    (listed : id ∈ (session.reactor.notifiers n).observers)
    (on : (session.reactor.cells id).observer.object ≠ none)
    (notification : SocketNotification) :
    (guarantee recursive told ended (some id)).Ensures
      (callBack id (session.reactor.notifiers n).socket (session.reactor.cells id).observer
        notification) session := by
  obtain ⟨idle, sound, kept⟩ := holds
  have recorded := conduct.invoked notification sound kept made listed on
  refine Guarantee.Ensures.bind ⟨⟨idle, sound, recorded⟩, .refl _⟩ ?_
  intro _ middle _ holds
  refine Guarantee.ensures_bind_ok rfl ?_
  refine Guarantee.Ensures.bind ⟨holds, .refl _⟩ ?_
  intro _ middle _ holds
  refine Guarantee.Ensures.bind ?_ ?_
  · apply Guarantee.ensures_forEach holds
    intro call _ state _ holds
    exact ensures_perform conduct holds call
  · intro _ last _ holds
    apply Guarantee.ensures_when holds
    intro _
    exact Guarantee.ensures_throw _ holds

/-- The cell `id` was in the list of the notifier `n` when it was copied. -/
structure Outstanding (reactor : SocketReactor) (n id : Nat) : Prop where
  made : n < reactor.notifierCount
  allocated : id < reactor.cellCount
  listed : id ∈ (reactor.notifiers n).observers ∨ (reactor.cells id).observer.object = none

theorem Outstanding.grows {reactor next : SocketReactor} {n id : Nat}
    (outstanding : Outstanding reactor n id) (grows : Grows reactor next) :
    Outstanding next n id := by
  obtain ⟨made, _⟩ := grows.notifiers n outstanding.made
  obtain ⟨allocated, same⟩ := grows.cells id outstanding.allocated
  refine ⟨made, allocated, ?_⟩
  rcases outstanding.listed with member | off
  · exact grows.lists n id outstanding.made outstanding.allocated member
  · refine .inr ?_
    rcases same with same | same
    · rw [same, off]
    · rw [same]
      rfl

theorem ensures_notify (conduct : Conduct recursive told ended)
    (holds : (guarantee recursive told ended none).holds session) {n id : Nat}
    (outstanding : Outstanding session.reactor n id) (notification : SocketNotification) :
    (guarantee recursive told ended none).Ensures
      (notify (session.reactor.notifiers n).socket notification id) session := by
  obtain ⟨idle, sound, kept⟩ := holds
  have lockable : ((observerMutex id).get session).Lockable := by
    have free : (session.reactor.cells id).mutex = .free recursive := idle.cell id
    change (session.reactor.cells id).mutex.Lockable
    rw [free]
    exact lockable_free recursive
  let entered := (observerMutex id).set ((observerMutex id).get session).enter session
  have held : (guarantee recursive told ended (some id)).holds entered :=
    ⟨idle.entered outstanding.allocated, sound.locked id _, conduct.locked kept⟩
  have on_entered := outstanding.grows (grows_locked session.reactor id
    ((observerMutex id).get session).enter)
  have body : (guarantee recursive told ended (some id)).Ensures (do
      let observer := ((← get).reactor.cells id).observer
      Exec.when (observer.object.isSome && observer.accepts (some notification))
        (callBack id (session.reactor.notifiers n).socket observer notification)) entered := by
    refine Guarantee.ensures_bind_ok rfl ?_
    apply Guarantee.ensures_when held
    intro meets
    have on : (entered.reactor.cells id).observer.object ≠ none := by
      simp only [Bool.and_eq_true] at meets
      exact Option.isSome_iff_ne_none.mp meets.1
    have listed := on_entered.listed.resolve_right on
    exact ensures_callBack conduct held on_entered.made listed on notification
  rw [Guarantee.Ensures, notify, Exec.ends_scopedLock, if_pos lockable]
  have released : ∀ next, (guarantee recursive told ended (some id)).holds next →
      (guarantee recursive told ended (some id)).leads entered next →
      let after := (observerMutex id).set ((observerMutex id).get next).leave next
      (guarantee recursive told ended none).holds after ∧
        (guarantee recursive told ended none).leads session after := by
    rintro next ⟨idle, sound, kept⟩ leads
    exact ⟨⟨idle.left, sound.locked id _, conduct.locked kept⟩,
      (grows_locked _ id _).trans (Grows.trans leads (grows_locked _ id _))⟩
  refine Exec.ends_mono body ?_ ?_
  · rintro _ next ⟨holds, leads⟩
    exact released next holds leads
  · intro stop next passed
    cases stop with
    | throw what => exact released next passed.1 passed.2
    | blocked | deadlock | fault | abort => exact passed

theorem run_onReactor {body : SocketReactor.Method α} {value : α}
    (ran : body.run session.reactor = .ok value session.reactor) :
    (onReactor body).run session = .ok value session := by
  simp [onReactor, Exec.run_on, reactorField, ran]

theorem run_onReactor_error {body : SocketReactor.Method α} {stop : Stop}
    (ran : body.run session.reactor = .error stop session.reactor) :
    (onReactor body).run session = .error stop session := by
  simp [onReactor, Exec.run_on, reactorField, ran]

theorem ensures_postNotification (conduct : Conduct recursive told ended)
    (holds : (guarantee recursive told ended none).holds session) {n : Nat}
    (made : n < session.reactor.notifierCount) (notification : SocketNotification) :
    (guarantee recursive told ended none).Ensures
      (postNotification n (session.reactor.notifiers n).socket notification) session := by
  have copied := NotificationCenter.run_observersToNotify n holds.1.unlocked
  refine Guarantee.ensures_bind_ok (run_onReactor copied) ?_
  apply Guarantee.ensures_forEach holds
  intro id member middle leads kept
  have outstanding : Outstanding session.reactor n id :=
    ⟨made, holds.2.1.listed n id member, .inl member⟩
  rw [← (Grows.notifiers leads n made).2]
  exact ensures_notify conduct kept (outstanding.grows leads) notification

theorem ensures_dispatch (discipline : Discipline recursive told ended)
    (holds : (guarantee recursive told ended none).holds session) {n : Nat}
    (made : n < session.reactor.notifierCount) (pointer : Option SocketNotification) :
    (guarantee recursive told ended none).Ensures (dispatch n pointer) session := by
  cases pointer with
  | none => exact discipline.crashed holds.2.2 (by decide)
  | some notification =>
      exact Guarantee.ensures_bind_ok rfl
        (ensures_postNotification discipline.toConduct holds made notification)

theorem ensures_dispatchNotifier (discipline : Discipline recursive told ended)
    (holds : (guarantee recursive told ended none).holds session) {n : Nat}
    (made : n < session.reactor.notifierCount) (pointer : Option SocketNotification) :
    (guarantee recursive told ended none).Ensures (dispatcher.dispatchNotifier pointer n)
      session := by
  apply (ensures_dispatch discipline holds made pointer).catching
  intro _ middle _ kept
  exact Guarantee.ensures_pure () kept

theorem ensures_dispatchSocket (discipline : Discipline recursive told ended)
    (holds : (guarantee recursive told ended none).holds session) (sockfd : Int)
    (notification : SocketNotification) :
    (guarantee recursive told ended none).Ensures (dispatcher.dispatchSocket sockfd notification)
      session := by
  have unlocked := holds.1.unlocked
  refine Guarantee.ensures_bind_ok rfl ?_
  cases found : session.reactor.handlers[sockfd]? with
  | none =>
      refine Guarantee.ensures_bind_ok
        (run_onReactor (run_getNotifier_absent unlocked found)) ?_
      exact Guarantee.ensures_pure () holds
  | some n =>
      refine Guarantee.ensures_bind_ok
        (run_onReactor (run_getNotifier_found unlocked found false)) ?_
      refine Guarantee.ensures_bind_ok rfl ?_
      exact ensures_dispatchNotifier discipline holds (holds.2.1.keyed sockfd n found).1 _

theorem run_delegates {reactor : SocketReactor} (unlocked : reactor.Unlocked) :
    delegates.run reactor = .ok (reactor.handlers.toList.map Prod.snd) reactor := by
  apply run_scopedLock_read mutexField unlocked.mutex
  simp [mutexField]

theorem handler_of_mem {handlers : Std.TreeMap Int Nat} {n : Nat}
    (member : n ∈ handlers.toList.map Prod.snd) : ∃ fd : Int, handlers[fd]? = some n := by
  obtain ⟨⟨fd, m⟩, listed, rfl⟩ := List.mem_map.mp member
  exact ⟨fd, Std.TreeMap.mem_toList_iff_getElem?_eq_some.mp listed⟩

theorem ensures_dispatchAll (discipline : Discipline recursive told ended)
    (holds : (guarantee recursive told ended none).holds session)
    (notification : SocketNotification) :
    (guarantee recursive told ended none).Ensures (dispatcher.dispatchAll notification)
      session := by
  refine Guarantee.ensures_bind_ok rfl ?_
  refine Guarantee.ensures_bind_ok (run_onReactor (run_delegates holds.1.unlocked)) ?_
  refine Guarantee.ensures_bind_ok rfl ?_
  apply Guarantee.ensures_forEach holds
  intro n member middle leads kept
  obtain ⟨fd, found⟩ := handler_of_mem member
  have made := (Grows.notifiers leads n (holds.2.1.keyed fd n found).1).1
  exact ensures_dispatchNotifier discipline kept made _

theorem run_acceptsAny {reactor : SocketReactor} (n : Nat)
    (free : (reactor.notifiers n).mutex.Lockable) :
    ∃ answer, (acceptsAny n).run reactor = .ok answer reactor := by
  have accepts := fun pointer => SocketNotifier.run_accepts n pointer free
  simp only [acceptsAny, EStateM.run_bind, EStateM.run_get, accepts]
  split
  · exact ⟨_, rfl⟩
  · simp only [EStateM.run_bind, accepts]
    split
    · exact ⟨_, rfl⟩
    · exact ⟨_, accepts _⟩

theorem run_someAccepts (reactor : SocketReactor)
    (free : ∀ n, (reactor.notifiers n).mutex.Lockable) (notifiers : List Nat) :
    ∃ answer, (someAccepts notifiers).run reactor = .ok answer reactor := by
  induction notifiers with
  | nil => exact ⟨false, rfl⟩
  | cons n rest ih =>
      obtain ⟨answer, ran⟩ := run_acceptsAny n (free n)
      simp only [someAccepts, EStateM.run_bind, ran]
      split
      · exact ⟨true, rfl⟩
      · exact ih

theorem run_hasSocketHandlers {reactor : SocketReactor} (unlocked : reactor.Unlocked) :
    ∃ answer, hasSocketHandlers.run reactor = .ok answer reactor := by
  have asked : (Exec.on pollSetField PollSet.isEmpty).run reactor =
      .ok reactor.pollSet.socketMap.isEmpty reactor := by
    rw [Exec.run_on, show pollSetField.get reactor = reactor.pollSet from rfl,
      PollSet.run_isEmpty unlocked.pollSet]
    rfl
  simp only [hasSocketHandlers, EStateM.run_bind, asked]
  split
  · exact ⟨false, rfl⟩
  · obtain ⟨answer, ran⟩ := run_someAccepts
      (mutexField.set (mutexField.get reactor).enter reactor) unlocked.notifier
      (reactor.handlers.toList.map Prod.snd)
    exact ⟨answer, run_scopedLock_read mutexField unlocked.mutex ran⟩

theorem ensures_serve (discipline : Discipline recursive told ended)
    (holds : (guarantee recursive told ended none).holds session)
    (ready : Int × PollSet.Mode) :
    (guarantee recursive told ended none).Ensures (dispatcher.serve ready) session := by
  refine Guarantee.Ensures.bind (Guarantee.ensures_when holds fun _ =>
    ensures_dispatchSocket discipline holds ready.1 .readable) ?_
  intro _ middle _ kept
  refine Guarantee.Ensures.bind (Guarantee.ensures_when kept fun _ =>
    ensures_dispatchSocket discipline kept ready.1 .writable) ?_
  intro _ last _ held
  exact Guarantee.ensures_when held fun _ =>
    ensures_dispatchSocket discipline held ready.1 .error

theorem ensures_poll (discipline : Discipline recursive told ended)
    (holds : (guarantee recursive told ended none).holds session)
    (answers : List (Except Nat (List (Epoll.Event Nat)))) :
    (guarantee recursive told ended none).Ensures
      (onReactor (Exec.on pollSetField (PollSet.poll answers))) session := by
  have lifted := Exec.run_on pollSetField (PollSet.poll answers) session.reactor
  rw [show pollSetField.get session.reactor = session.reactor.pollSet from rfl] at lifted
  rcases PollSet.run_poll holds.1.unlocked.pollSet answers with
    ⟨result, ran⟩ | ⟨what, ran⟩ | ran <;> rw [ran] at lifted
  · exact (Exec.ends_of_ok (run_onReactor lifted)).mpr ⟨holds, .refl _⟩
  · exact (Exec.ends_of_error (run_onReactor_error lifted)).mpr ⟨holds, .refl _⟩
  · exact (Exec.ends_of_error (run_onReactor_error lifted)).mpr
      (discipline.crashed holds.2.2 (by decide))

theorem ensures_discard (conduct : Conduct recursive told ended)
    (holds : (guarantee recursive told ended none).holds session) (sm : PollSet.SocketModeMap) :
    (guarantee recursive told ended none).Ensures
      (onReactor (Exec.on pollSetField (PollSet.discard sm))) session := by
  obtain ⟨idle, sound, kept⟩ := holds
  exact ⟨⟨idle.withPollSet rfl, sound.withPollSet _, conduct.polled _ kept⟩,
    (Grows.refl session.reactor).withPollSet _⟩

theorem ensures_turn (discipline : Discipline recursive told ended)
    (holds : (guarantee recursive told ended none).holds session)
    (answers : List (Except Nat (List (Epoll.Event Nat)))) :
    (guarantee recursive told ended none).Ensures (turn answers) session := by
  have unlocked := holds.1.unlocked
  obtain ⟨some, asked⟩ := run_hasSocketHandlers unlocked
  refine Guarantee.Ensures.catching ?_ fun _ middle _ kept => Guarantee.ensures_pure () kept
  refine Guarantee.ensures_bind_ok (run_onReactor asked) ?_
  cases some with
  | false => exact ensures_dispatchAll discipline holds .idle
  | true =>
      refine (ensures_poll discipline holds answers).bind ?_
      intro sm middle _ kept
      refine Guarantee.Ensures.bind ?_ ?_
      · apply Guarantee.ensures_forEach kept
        intro ready _ state _ kept
        exact ensures_serve discipline kept ready
      · intro _ served _ kept
        refine Guarantee.Ensures.bind (Guarantee.ensures_when kept fun _ =>
          ensures_dispatchAll discipline kept .timeout) ?_
        intro _ last _ kept
        exact ensures_discard discipline.toConduct kept sm

theorem ensures_run (discipline : Discipline recursive told ended)
    (holds : (guarantee recursive told ended none).holds session) (actions : List Action) :
    (guarantee recursive told ended none).Ensures (run actions) session := by
  apply Guarantee.ensures_forEach holds
  intro action _ state _ kept
  cases action with
  | call request => exact ensures_perform discipline.toConduct kept request
  | turn answers => exact ensures_turn discipline kept answers
  | shutdown => exact ensures_dispatchAll discipline kept .shutdown

/-- A discipline that the log of a fresh session satisfies governs every session. -/
theorem ends_run (discipline : Discipline recursive told ended)
    (owns : SocketNotification → Bool) (refusal : Nat → CtlOp → Bool → Option Nat)
    (fresh : told [] (empty recursive owns refusal)) (behaviour : Nat → Behaviour)
    (actions : List Action) :
    Exec.ends (run actions) (fun _ session => told session.log session.reactor)
      (fun stop session => match stop with
        | .throw _ => told session.log session.reactor
        | _ => ended stop session.log)
      (start (empty recursive owns refusal) behaviour) := by
  have holds : (guarantee recursive told ended none).holds
      (start (empty recursive owns refusal) behaviour) :=
    ⟨idle_empty recursive owns refusal, sound_empty recursive owns refusal, fresh⟩
  refine Exec.ends_mono (ensures_run discipline holds actions) ?_ ?_
  · rintro _ session ⟨kept, _⟩
    exact kept.2.2
  · intro stop session passed
    cases stop with
    | throw what => exact passed.1.2.2
    | blocked | deadlock | fault | abort => exact passed

end Session

end SocketReactor

end TestReactor
