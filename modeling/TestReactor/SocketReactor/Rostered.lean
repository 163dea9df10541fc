import TestReactor.Roster.Crowd
import TestReactor.SocketReactor.Ready
import TestReactor.SocketReactor.Sections

namespace TestReactor

namespace SocketReactor

open Function (update)

/-! The notifiers as the lists of a roster, whose entry is the handler of one socket: what a
section of a call does to it. -/

variable {reactor next : SocketReactor} {recursive : Bool} {fd : Int}

def roster (reactor : SocketReactor) (fd : Int) : Roster Observer where
  made := reactor.notifierCount
  entry := reactor.handlers[fd]?
  lists := reactor.observersOf

def Call.observer : Call → Observer
  | .add _ observer => observer
  | .remove _ observer => observer

def Call.errand : Call → Roster.Errand Observer
  | .add _ observer => .join observer
  | .remove _ observer => .leave observer

def Stage.place : Stage → Roster.Place
  | .start => .start
  | .found n => .found n
  | .absent n => .absent n
  | .listed n => .listed n
  | .last n => .last n
  | .erased n => .leaving n true
  | .leaving n alone => .leaving n alone
  | .left _ => .done
  | .asking _ _ _ => .done
  | .returned => .done
  | .thrown _ => .done

@[simp] theorem value_errand (call : Call) : call.errand.value = call.observer := by
  cases call <;> rfl

theorem members_roster (reactor : SocketReactor) (fd : Int) :
    (reactor.roster fd).members = reactor.registered fd := by
  cases found : reactor.handlers[fd]? with
  | none => rw [registered_absent found, Roster.members_absent found]
  | some n =>
      rw [registered_found found, Roster.members_found found]
      rfl

/-! The single steps. -/

section

variable {n id : Nat} {observer : Observer}

theorem roster_created (reactor : SocketReactor) (fd : Int) :
    (reactor.created fd).roster fd = (reactor.roster fd).opened := by
  have lists : (reactor.created fd).observersOf =
      update reactor.observersOf reactor.notifierCount [] := by
    funext m
    by_cases new : m = reactor.notifierCount
    · simp [observersOf, created, putNotifier, Notifier.new, new]
    · simp [observersOf, created, putNotifier, new]
  have entry : (reactor.created fd).handlers[fd]? = some reactor.notifierCount := by
    simp only [created, getElem?_insert, if_true]
  rw [roster, lists, entry]
  rfl

theorem roster_enlisted (sound : reactor.Sound) (fd : Int) (n : Nat) (observer : Observer) :
    (reactor.enlisted n observer).roster fd =
      (reactor.roster fd).withList n (reactor.observersOf n ++ [observer]) := by
  have lists : (reactor.enlisted n observer).observersOf =
      update reactor.observersOf n (reactor.observersOf n ++ [observer]) := by
    funext m
    rw [observersOf_enlisted sound]
    by_cases same : m = n <;> simp [same]
  have made : (reactor.enlisted n observer).notifierCount = reactor.notifierCount := by
    unfold enlisted
    split <;> rfl
  rw [roster, lists, made, handlers_enlisted]
  rfl

theorem roster_delisted (sound : reactor.Sound) (fd : Int)
    (found : NotificationCenter.find reactor n observer = some id) :
    (reactor.delisted n observer id).roster fd =
      (reactor.roster fd).withList n ((reactor.observersOf n).erase observer) := by
  have lists : (reactor.delisted n observer id).observersOf =
      update reactor.observersOf n ((reactor.observersOf n).erase observer) := by
    funext m
    rw [observersOf_delisted sound found]
    by_cases same : m = n <;> simp [same]
  have made : (reactor.delisted n observer id).notifierCount = reactor.notifierCount := by
    unfold delisted
    split <;> rfl
  rw [roster, lists, made, handlers_delisted]
  rfl

theorem roster_forgotten (reactor : SocketReactor) (socket : SocketRef) (pollSet : PollSet) :
    (reactor.forgotten socket pollSet).roster socket.sockfd =
      (reactor.roster socket.sockfd).closed := by
  have entry : (reactor.forgotten socket pollSet).handlers[socket.sockfd]? = none := by
    simp only [forgotten, getElem?_erase, if_true]
  rw [roster, entry]
  rfl

theorem roster_withEvents (fd : Int) (n : Nat)
    (change : List (Option SocketNotification) → List (Option SocketNotification)) :
    (reactor.withEvents n change).roster fd = reactor.roster fd := by
  have lists : (reactor.withEvents n change).observersOf = reactor.observersOf := by
    funext m
    by_cases same : m = n <;> simp [observersOf, withEvents, putNotifier, same]
  rw [roster, lists]
  rfl

end

theorem act_of_ok {call : Call} {stage stage' : Stage} {body : Method Stage}
    (section_ : call.section stage = some body) (ran : body.run reactor = .ok stage' next) :
    act reactor ⟨call, stage⟩ () = some (next, ⟨call, stage'⟩) := by
  simp [act, section_, Exec.returns, ran]

theorem act_of_throw {call : Call} {stage : Stage} {body : Method Stage} {what : String}
    (section_ : call.section stage = some body)
    (thrown : body.run reactor = .error (.throw what) next) :
    act reactor ⟨call, stage⟩ () = some (next, ⟨call, .thrown what⟩) := by
  simp [act, section_, Exec.returns, thrown]

theorem act_pollSet {call : Call} {stage after : Stage} {body : PollSet.Method Unit}
    (condition : Bool) (section_ : call.section stage = some (do
      Exec.when condition (Exec.on pollSetField body)
      return after)) (settles : PollSet.Settles body reactor.pollSet) :
    ∃ pollSet stage', pollSet.mutex = reactor.pollSet.mutex ∧
      (stage' = after ∨ ∃ what, stage' = .thrown what) ∧
      act reactor ⟨call, stage⟩ () = some (reactor.withPollSet pollSet, ⟨call, stage'⟩) := by
  obtain ⟨pollSet, ok, mutex, comes⟩ := comes_of_settles condition settles
  cases ok with
  | true =>
      have returned : (Exec.when condition (Exec.on pollSetField body)).run reactor =
          .ok () (reactor.withPollSet pollSet) := comes
      refine ⟨pollSet, after, mutex, .inl rfl, act_of_ok section_ ?_⟩
      simp only [EStateM.run_bind, returned, EStateM.run_pure]
  | false =>
      obtain ⟨what, thrown⟩ := comes
      refine ⟨pollSet, .thrown what, mutex, .inr ⟨what, rfl⟩, act_of_throw section_ ?_⟩
      simp only [EStateM.run_bind, thrown]

/-- What a section does to the roster of its socket, if anything. -/
def Advances (reactor next : SocketReactor) (call : Call) (stage stage' : Stage) : Prop :=
  (reactor.roster call.sockfd).Moves call.errand stage.place (next.roster call.sockfd)
    stage'.place ∨
  next.roster call.sockfd = reactor.roster call.sockfd ∧ stage'.place = stage.place ∧
    stage.place.past = true

structure Acts (recursive : Bool) (reactor : SocketReactor) (call : Call) (stage : Stage)
    (next : SocketReactor) (stage' : Stage) : Prop where
  acted : act reactor ⟨call, stage⟩ () = some (next, ⟨call, stage'⟩)
  idle : next.Idle recursive none
  sound : next.Sound
  advances : Advances reactor next call stage stage'

section

variable {socket : SocketRef} {observer : Observer} {n : Nat}

theorem run_removeObserver_unlisted (idle : reactor.Idle recursive none) (sound : reactor.Sound)
    (absent : NotificationCenter.find reactor n observer = none) :
    ∃ next, (SocketNotifier.removeObserver n observer).run reactor = .ok () next ∧
      next.Idle recursive none ∧ next.Sound ∧ ∀ fd, next.roster fd = reactor.roster fd := by
  refine ⟨_, SocketNotifier.run_removeObserver_none idle.unlocked absent, ?_⟩
  cases SocketNotifier.eventOf reactor observer with
  | none => exact ⟨idle, sound, fun _ => rfl⟩
  | some event =>
      exact ⟨idle.withEvents n _, sound.putNotifier n _ rfl (List.Sublist.refl _),
        fun fd => roster_withEvents fd n _⟩

theorem acts_asking (idle : reactor.Idle recursive none) (sound : reactor.Sound) (call : Call)
    (n : Nat) (mode : PollSet.Mode) (rest : List (SocketNotification × PollSet.Mode)) :
    ∃ next stage', Acts recursive reactor call (.asking n mode rest) next stage' := by
  cases rest with
  | cons first rest =>
      obtain ⟨notification, bit⟩ := first
      obtain ⟨answer, asked⟩ : ∃ answer, (ask n mode notification bit).run reactor =
          .ok answer reactor := ⟨_, run_ask n mode notification bit (idle.unlocked.notifier n)⟩
      refine ⟨reactor, .asking n answer rest, act_of_ok (by cases call <;> rfl) ?_, idle, sound,
        .inr ⟨rfl, rfl, rfl⟩⟩
      simp only [EStateM.run_bind, asked, EStateM.run_pure]
  | nil =>
      have free := idle.unlocked.pollSet
      have acted : ∃ pollSet stage', pollSet.mutex = reactor.pollSet.mutex ∧
          (stage' = .returned ∨ ∃ what, stage' = .thrown what) ∧
          act reactor ⟨call, .asking n mode []⟩ () =
            some (reactor.withPollSet pollSet, ⟨call, stage'⟩) := by
        cases call with
        | add socket observer => exact act_pollSet _ rfl (PollSet.settles_add free socket mode)
        | remove socket observer =>
            exact act_pollSet true rfl (PollSet.settles_update _ socket mode)
      obtain ⟨pollSet, stage', mutex, ended, acted⟩ := acted
      refine ⟨_, stage', acted, idle.withPollSet mutex, sound.withPollSet pollSet,
        .inr ⟨rfl, ?_, rfl⟩⟩
      rcases ended with rfl | ⟨what, rfl⟩ <;> rfl

theorem acts_add (idle : reactor.Idle recursive none) (sound : reactor.Sound) (socket : SocketRef)
    (observer : Observer) {stage : Stage}
    (made : ∀ n, stage = .absent n → n < reactor.notifierCount) {body : Method Stage}
    (section_ : (Call.add socket observer).section stage = some body) :
    ∃ next stage', Acts recursive reactor (.add socket observer) stage next stage' := by
  have unlocked := idle.unlocked
  cases stage with
  | start =>
      cases found : reactor.handlers[socket.sockfd]? with
      | some n =>
          have ran := run_getNotifier_found unlocked found true
          refine ⟨reactor, .found n, act_of_ok rfl ?_, idle, sound, .inl (.finds _ n found)⟩
          simp only [EStateM.run_bind, ran, EStateM.run_pure]
      | none =>
          have ran := run_getNotifier_new unlocked found
          refine ⟨_, .found reactor.notifierCount, act_of_ok rfl ?_, idle.created socket.sockfd,
            sound.created socket.sockfd, .inl ?_⟩
          · simp only [EStateM.run_bind, ran, EStateM.run_pure]
          · rw [Call.sockfd, roster_created]
            exact .opens observer found
  | found n =>
      have ran := run_hasObserver n observer unlocked
      by_cases member : observer ∈ reactor.observersOf n
      · rw [decide_eq_true member] at ran
        refine ⟨reactor, .asking n 0 modes, act_of_ok rfl ?_, idle, sound,
          .inl (.known observer n member)⟩
        simp only [EStateM.run_bind, ran, if_true, EStateM.run_pure]
      · rw [decide_eq_false member] at ran
        refine ⟨reactor, .absent n, act_of_ok rfl ?_, idle, sound,
          .inl (.unknown observer n member)⟩
        simp only [EStateM.run_bind, ran, Bool.false_eq_true, if_false, EStateM.run_pure]
  | absent n =>
      have ran := SocketNotifier.run_addObserver n observer unlocked
      refine ⟨_, .asking n 0 modes, act_of_ok rfl ?_, idle.enlisted n observer,
        sound.enlisted (made n rfl) observer, .inl ?_⟩
      · simp only [EStateM.run_bind, ran, EStateM.run_pure]
      · rw [roster_enlisted sound]
        exact .joins observer n
  | asking n mode rest => exact acts_asking idle sound _ n mode rest
  | listed | last | erased | leaving | left | returned | thrown => cases section_

theorem acts_erased (idle : reactor.Idle recursive none) (sound : reactor.Sound)
    (socket : SocketRef) (observer : Observer) (n : Nat) :
    ∃ next stage', Acts recursive reactor (.remove socket observer) (.erased n) next stage' := by
  have unlocked := idle.unlocked
  have settles := PollSet.settles_remove unlocked.pollSet socket
  have acted : ∃ pollSet stage', pollSet.mutex = reactor.pollSet.mutex ∧
      (stage' = .leaving n true ∨ ∃ what, stage' = .thrown what) ∧
      act reactor ⟨.remove socket observer, .erased n⟩ () =
        some (reactor.withPollSet pollSet, ⟨.remove socket observer, stage'⟩) :=
    act_pollSet true rfl settles
  obtain ⟨pollSet, stage', mutex, ended, acted⟩ := acted
  refine ⟨_, stage', acted, idle.withPollSet mutex, sound.withPollSet pollSet, ?_⟩
  rcases ended with rfl | ⟨what, rfl⟩
  · exact .inr ⟨rfl, rfl, rfl⟩
  · exact .inl (.quits observer n)

theorem acts_leaving (idle : reactor.Idle recursive none) (sound : reactor.Sound)
    (socket : SocketRef) (observer : Observer) (n : Nat) (alone : Bool) :
    ∃ next stage',
      Acts recursive reactor (.remove socket observer) (.leaving n alone) next stage' := by
  have unlocked := idle.unlocked
  cases found : NotificationCenter.find reactor n observer with
  | some id =>
      have ran := SocketNotifier.run_removeObserver_ok unlocked found (idle.free_cell id)
      refine ⟨_, .left n, act_of_ok rfl ?_, idle.delisted n observer id,
        sound.delisted n observer id, .inl ?_⟩
      · simp only [EStateM.run_bind, ran, EStateM.run_pure]
      · rw [roster_delisted sound _ found]
        exact .leaves observer n alone
  | none =>
      obtain ⟨next, ran, idle', sound', same⟩ := run_removeObserver_unlisted idle sound found
      refine ⟨next, .left n, act_of_ok rfl ?_, idle', sound', .inl ?_⟩
      · simp only [EStateM.run_bind, ran, EStateM.run_pure]
      · have leaves : (reactor.roster socket.sockfd).Moves (.leave observer)
            (.leaving n alone) _ .done := .leaves observer n alone
        have kept : ((reactor.roster socket.sockfd).lists n).erase observer =
            (reactor.roster socket.sockfd).lists n :=
          List.erase_of_not_mem (find_eq_none_iff.mp found)
        rw [kept, Roster.withList_self] at leaves
        rw [same]
        exact leaves

theorem acts_remove (idle : reactor.Idle recursive none) (sound : reactor.Sound)
    (socket : SocketRef) (observer : Observer) {stage : Stage} {body : Method Stage}
    (section_ : (Call.remove socket observer).section stage = some body) :
    ∃ next stage', Acts recursive reactor (.remove socket observer) stage next stage' := by
  have unlocked := idle.unlocked
  cases stage with
  | start =>
      cases found : reactor.handlers[socket.sockfd]? with
      | some n =>
          have ran := run_getNotifier_found unlocked found false
          refine ⟨reactor, .found n, act_of_ok rfl ?_, idle, sound, .inl (.finds _ n found)⟩
          simp only [EStateM.run_bind, ran, EStateM.run_pure]
      | none =>
          have ran := run_getNotifier_absent unlocked found
          refine ⟨reactor, .returned, act_of_ok rfl ?_, idle, sound, .inl (.misses observer found)⟩
          simp only [EStateM.run_bind, ran, EStateM.run_pure]
  | found n =>
      have ran := run_hasObserver n observer unlocked
      by_cases member : observer ∈ reactor.observersOf n
      · rw [decide_eq_true member] at ran
        refine ⟨reactor, .listed n, act_of_ok rfl ?_, idle, sound, .inl (.listed observer n member)⟩
        simp only [EStateM.run_bind, ran, if_true, EStateM.run_pure]
      · rw [decide_eq_false member] at ran
        refine ⟨reactor, .returned, act_of_ok rfl ?_, idle, sound,
          .inl (.unlisted observer n member)⟩
        simp only [EStateM.run_bind, ran, Bool.false_eq_true, if_false, EStateM.run_pure]
  | listed n =>
      have ran := NotificationCenter.run_countObservers n unlocked
      have length : (reactor.observersOf n).length = (reactor.notifiers n).observers.length :=
        List.length_map _
      by_cases single : (reactor.notifiers n).observers.length = 1
      · refine ⟨reactor, .last n, act_of_ok rfl ?_, idle, sound,
          .inl (.alone observer n (length.trans single))⟩
        simp only [EStateM.run_bind, ran, if_pos single, EStateM.run_pure]
      · refine ⟨reactor, .leaving n false, act_of_ok rfl ?_, idle, sound,
          .inl (.among observer n (length ▸ single))⟩
        simp only [EStateM.run_bind, ran, if_neg single, EStateM.run_pure]
  | last n =>
      have ran := run_erase unlocked socket.sockfd
      have mutex : (reactor.erased socket.sockfd).pollSet.mutex = reactor.pollSet.mutex := by
        simp only [erased]
        split <;> rfl
      refine ⟨_, .erased n, act_of_ok rfl ?_, idle.forgotten socket mutex,
        sound.forgotten socket _, .inl ?_⟩
      · simp only [EStateM.run_bind, ran, EStateM.run_pure]
        rfl
      · rw [Call.sockfd, roster_forgotten]
        exact .closes observer n
  | erased n => exact acts_erased idle sound socket observer n
  | leaving n alone => exact acts_leaving idle sound socket observer n alone
  | left n =>
      have ran := NotificationCenter.run_countObservers n unlocked
      by_cases remain : (reactor.notifiers n).observers.length > 0 && socket.sockfd > 0
      · refine ⟨reactor, .asking n 0 modes, act_of_ok rfl ?_, idle, sound, .inr ⟨rfl, rfl, rfl⟩⟩
        simp only [EStateM.run_bind, ran, if_pos remain, EStateM.run_pure]
      · refine ⟨reactor, .returned, act_of_ok rfl ?_, idle, sound, .inr ⟨rfl, rfl, rfl⟩⟩
        simp only [EStateM.run_bind, ran, if_neg remain, EStateM.run_pure]
  | asking n mode rest => exact acts_asking idle sound _ n mode rest
  | absent | returned | thrown => cases section_

theorem acts_of_act (idle : reactor.Idle recursive none) (sound : reactor.Sound) {call : Call}
    {stage : Stage} {caller : Caller} (made : ∀ n, stage = .absent n → n < reactor.notifierCount)
    (acted : act reactor ⟨call, stage⟩ () = some (next, caller)) :
    ∃ stage', caller = ⟨call, stage'⟩ ∧ Acts recursive reactor call stage next stage' := by
  have some_section : ∃ body, call.section stage = some body := by
    cases section_ : call.section stage with
    | none => simp [act, section_] at acted
    | some body => exact ⟨body, rfl⟩
  obtain ⟨body, section_⟩ := some_section
  have acts : ∃ next stage', Acts recursive reactor call stage next stage' := by
    cases call with
    | add socket observer => exact acts_add idle sound socket observer made section_
    | remove socket observer => exact acts_remove idle sound socket observer section_
  obtain ⟨after, stage', acts⟩ := acts
  cases acts.acted.symm.trans acted
  exact ⟨stage', rfl, acts⟩

end

end SocketReactor

end TestReactor
