import TestReactor.SocketReactor.Batch

namespace TestReactor

namespace SocketReactor

/-! The loop of `run`, from turn to turn, up to the broadcast of the shutdown. -/

/-- A turn of the loop: what `epoll_wait` answers in it, and whether `stop()` is called, by
a callback or by another thread, before `_stop` is read again. -/
structure Lap where
  answers : List (Except Nat (List (Epoll.Event Nat)))
  stops : Bool

structure Running (σ : Type) where
  state : σ
  stop : Bool

def stop : Exec (Running σ) Unit := modify fun running => { running with stop := true }

namespace Running

variable {σ τ : Type}

def stateField : Field (Running σ) σ where
  get := state
  set state running := { running with state := state }
  get_set _ _ := rfl
  set_get _ := rfl
  set_set _ _ _ := rfl

/-- `while (!_stop)`, through the turns of `laps`: whether the loop has been left by then. -/
def loop (turn : List (Except Nat (List (Epoll.Event Nat))) → Exec σ Unit) :
    List Lap → Exec (Running σ) Bool
  | [] => do return (← get).stop
  | lap :: later => do
      if (← get).stop then return true
      else
        Exec.on stateField (turn lap.answers)
        Exec.when lap.stops SocketReactor.stop
        loop turn later

/-- `run`, through the turns of `laps`: whether it has returned by then. -/
def run (turn : List (Except Nat (List (Epoll.Event Nat))) → Exec σ Unit)
    (onShutdown : Exec σ Unit) (laps : List Lap) : Exec (Running σ) Bool := do
  let left ← loop turn laps
  Exec.when left (Exec.on stateField onShutdown)
  return left

def through (view : σ → τ) (running : Running σ) : Running τ := ⟨view running.state, running.stop⟩

section

open Exec

variable {view : σ → τ} {turn : List (Except Nat (List (Epoll.Event Nat))) → Exec σ Unit}
  {inner : List (Except Nat (List (Epoll.Event Nat))) → Exec τ Unit}

theorem tracks_on_state {body : Exec σ Unit} {other : Exec τ Unit}
    (tracks : Tracks view body other) :
    Tracks (through view) (Exec.on stateField body) (Exec.on stateField other) := by
  intro running
  have same : seen view (body.run (stateField.get running)) =
      other.run (stateField.get (through view running)) := tracks running.state
  rw [run_on, run_on, ← same]
  cases body.run (stateField.get running) <;> rfl

theorem tracks_loop (tracks : ∀ answers, Tracks view (turn answers) (inner answers))
    (laps : List Lap) : Tracks (through view) (loop turn laps) (loop inner laps) := by
  induction laps with
  | nil =>
      exact tracks_get fun running => tracks_pure running.stop
  | cons lap later ih =>
      refine tracks_get fun running => ?_
      refine Tracks.ite (tracks_pure true) ?_
      refine (tracks_on_state (tracks lap.answers)).bind fun _ => ?_
      refine Tracks.bind (Tracks.when (fun _ => rfl) lap.stops) fun _ => ih

theorem tracks_run {onShutdown : Exec σ Unit} {shutdown : Exec τ Unit}
    (tracks : ∀ answers, Tracks view (turn answers) (inner answers))
    (last : Tracks view onShutdown shutdown) (laps : List Lap) :
    Tracks (through view) (run turn onShutdown laps) (run inner shutdown laps) :=
  (tracks_loop tracks laps).bind fun left =>
    ((tracks_on_state last).when left).bind fun _ => tracks_pure left

end

end Running

theorem Session.Conduct.mono {recursive : Bool} {told : List Event → SocketReactor → Prop}
    {ended weaker : Stop → List Event → Prop} (conduct : Session.Conduct recursive told ended)
    (implies : ∀ stop log, ended stop log → weaker stop log) :
    Session.Conduct recursive told weaker where
  locked := conduct.locked
  call := conduct.call
  stuck := fun idle kept stuck => implies _ _ (conduct.stuck idle kept stuck)
  invoked := conduct.invoked
  polled := conduct.polled

namespace Recorded

open Session (steady)

/-- What a turn does with the answers to its poll: it broadcasts that the reactor is idle,
or it is cut short by the poll, or it serves the batch that the poll returns. -/
inductive Turned (before : Recorded) (answers : List (Except Nat (List (Epoll.Event Nat))))
    (after : Recorded) : Prop where
  | idle
      (unattended : Session.hasSocketHandlers.run before.session.reactor =
        .ok false before.session.reactor)
      (records : after.records = before.records ++
        broadcastRecords .idle (registered before.session.reactor))
  | failed (what : String)
      (polled : (PollSet.poll answers).run before.session.reactor.pollSet =
        .error (.throw what) before.session.reactor.pollSet)
      (same : after = before)
  | served (sm : PollSet.SocketModeMap) (dues : List Due) (others : List Nat)
      (polled : (PollSet.poll answers).run before.session.reactor.pollSet =
        .ok sm before.session.reactor.pollSet)
      (inOrder : dues.map Due.bit = sm.toList.flatMap bits)
      (records : after.records = before.records ++ (dues.flatMap attendance ++
        if anyReadable sm then [] else broadcastRecords .timeout others))

inductive Turns : Recorded → List Lap → Recorded → Prop where
  | nil (recorded : Recorded) : Turns recorded [] recorded
  | cons {first middle last : Recorded} {lap : Lap} {later : List Lap}
      (turned : Turned first lap.answers middle) (turns : Turns middle later last) :
      Turns first (lap :: later) last

theorem discipline_owned : Session.Discipline true (fun _ reactor => reactor.Owned)
    (fun stop _ => stop ≠ .deadlock) where
  toConduct := Session.conduct_owned.mono fun _ _ => False.elim
  crashed := fun _ other => other

variable {recorded : Recorded}

theorem steady_of_ran {body : Session.Method Unit} {session next : Session}
    (ensures : (Session.guarantee true (fun _ reactor => reactor.Owned)
      (fun stop _ => stop ≠ .deadlock) none).Ensures body session)
    (ran : body.run session = .ok () next) : steady.holds next :=
  ((Exec.ends_of_ok ran).mp ensures).1

theorem holds_of_tracks {body : Method Unit} {inner : Session.Method Unit} {next : Recorded}
    (tracks : Exec.Tracks session body inner)
    (ensures : (Session.guarantee true (fun _ reactor => reactor.Owned)
      (fun stop _ => stop ≠ .deadlock) none).Ensures inner recorded.session)
    (ran : body.run recorded = .ok () next) : steady.holds next.session := by
  have tracked := tracks recorded
  rw [ran] at tracked
  exact steady_of_ran ensures tracked.symm

theorem run_broadcast (holds : steady.holds recorded.session)
    (notification : SocketNotification) :
    ∃ next, (dispatcher.dispatchAll notification).run recorded = .ok () next ∧
      next.records = recorded.records ++
        broadcastRecords notification (registered recorded.session.reactor) ∧
      steady.holds next.session := by
  obtain ⟨next, ran, records⟩ := run_dispatchAll holds notification
  exact ⟨next, ran, records, holds_of_tracks (covers_session.dispatchAll notification)
    (Session.ensures_dispatchAll discipline_owned holds notification) ran⟩

/-- A turn comes back whatever the callbacks do, unless its poll waits for ever. -/
theorem run_turn_of_settled (holds : steady.holds recorded.session)
    {answers : List (Except Nat (List (Epoll.Event Nat)))}
    (settled : Errno.retried answers ≠ none) :
    ∃ next, (turn answers).run recorded = .ok () next ∧ Turned recorded answers next ∧
      steady.holds next.session := by
  have unlocked := holds.1.unlocked
  have kept {next : Recorded} (ran : (turn answers).run recorded = .ok () next) :
      steady.holds next.session :=
    holds_of_tracks (covers_session.turn answers)
      (Session.ensures_turn discipline_owned holds answers) ran
  obtain ⟨attended, asked⟩ := Session.run_hasSocketHandlers unlocked
  have answered : (dispatcher.onReactor Session.hasSocketHandlers).run recorded =
      .ok attended recorded := Dispatcher.run_onReactor asked
  cases attended with
  | false =>
      obtain ⟨next, broadcast, records, -⟩ := run_broadcast holds .idle
      have ran : (turn answers).run recorded = .ok () next := by
        apply Exec.run_catching_ok
        simp only [EStateM.run_bind, answered]
        exact broadcast
      exact ⟨next, ran, .idle asked records, kept ran⟩
  | true =>
      rcases PollSet.run_poll_of_settled unlocked.pollSet settled with ⟨sm, polled⟩ | ⟨what, polled⟩
      · obtain ⟨served, dues, ran, inOrder, records, steady⟩ :=
          serves_forEach serves_serve sm.toList recorded holds
        obtain ⟨last, others, timedOut, told⟩ := run_timeout steady sm
        obtain ⟨next, turned, same⟩ := run_turn asked polled ran timedOut
        refine ⟨next, turned, .served sm dues others polled inOrder ?_, kept turned⟩
        rw [same, told, records, List.append_assoc]
      · have polls : (dispatcher.onReactor (Exec.on pollSetField (PollSet.poll answers))).run
            recorded = .error (.throw what) recorded :=
          Dispatcher.run_onReactor_error (Exec.run_on_error polled)
        have ran : (turn answers).run recorded = .ok () recorded := by
          simp only [turn, Dispatcher.turn, Exec.run_catching, EStateM.run_bind, answered, if_true,
            polls]
          rfl
        exact ⟨recorded, ran, .failed what polled rfl, holds⟩

theorem run_lap {next : Recorded} {lap : Lap} (later : List Lap)
    (ran : (turn lap.answers).run recorded = .ok () next) :
    (Running.loop turn (lap :: later)).run ⟨recorded, false⟩ =
      (Running.loop turn later).run ⟨next, lap.stops⟩ := by
  have turned : (Exec.on Running.stateField (turn lap.answers)).run ⟨recorded, false⟩ =
      .ok () ⟨next, false⟩ := Exec.run_on_ok ran
  simp only [Running.loop, EStateM.run_bind, EStateM.run_get, Bool.false_eq_true, if_false, turned]
  cases lap.stops <;> rfl

theorem run_laps (holds : steady.holds recorded.session) {laps : List Lap}
    (working : ∀ lap ∈ laps, lap.stops = false)
    (settled : ∀ lap ∈ laps, Errno.retried lap.answers ≠ none) :
    ∃ next, Turns recorded laps next ∧
      (∀ later, (Running.loop turn (laps ++ later)).run ⟨recorded, false⟩ =
        (Running.loop turn later).run ⟨next, false⟩) ∧
      steady.holds next.session := by
  induction laps generalizing recorded with
  | nil => exact ⟨recorded, .nil recorded, fun _ => rfl, holds⟩
  | cons lap rest ih =>
      rw [List.forall_mem_cons] at working settled
      obtain ⟨middle, ran, turned, kept⟩ := run_turn_of_settled holds settled.1
      obtain ⟨next, turns, goes, steady⟩ := ih kept working.2 settled.2
      refine ⟨next, .cons turned turns, fun later => ?_, steady⟩
      rw [List.cons_append, run_lap (rest ++ later) ran, working.1, goes]

/-- Whatever the callbacks do and epoll answers, the loop makes one turn after the other, and has
not returned, until `stop()` is called; then it finishes the turn under way, broadcasts the
shutdown to every handler there is, and returns. -/
theorem run_until_stopped {session : Session} (idle : session.reactor.Idle true none)
    (sound : session.reactor.Sound) (owned : session.reactor.Owned) {laps : List Lap}
    (working : ∀ lap ∈ laps, lap.stops = false)
    (settled : ∀ lap ∈ laps, Errno.retried lap.answers ≠ none) :
    ∃ before : Recorded, Turns ⟨session, []⟩ laps before ∧
      (Running.run Session.turn Session.onShutdown laps).run ⟨session, false⟩ =
        .ok false ⟨before.session, false⟩ ∧
      ∀ (final : Lap) (later : List Lap), final.stops = true →
        Errno.retried final.answers ≠ none →
        ∃ served last : Recorded, Turned before final.answers served ∧
          last.records = served.records ++
            broadcastRecords .shutdown (registered served.session.reactor) ∧
          (Running.run turn onShutdown (laps ++ final :: later)).run ⟨⟨session, []⟩, false⟩ =
            .ok true ⟨last, true⟩ ∧
          (Running.run Session.turn Session.onShutdown (laps ++ final :: later)).run
            ⟨session, false⟩ = .ok true ⟨last.session, true⟩ := by
  let recorded : Recorded := ⟨session, []⟩
  have holds : steady.holds recorded.session := ⟨idle, sound, owned⟩
  have tracked (laps : List Lap) :=
    Running.tracks_run covers_session.turn (covers_session.dispatchAll .shutdown) laps
      ⟨recorded, false⟩
  have seen {laps : List Lap} {left : Bool} {last : Running Recorded}
      (ran : (Running.run turn onShutdown laps).run ⟨recorded, false⟩ = .ok left last) :
      (Running.run Session.turn Session.onShutdown laps).run ⟨session, false⟩ =
        .ok left (last.through Recorded.session) := by
    have same := tracked laps
    rw [show (Running.run dispatcher.turn (dispatcher.dispatchAll .shutdown) laps).run
      ⟨recorded, false⟩ = _ from ran] at same
    exact same.symm
  obtain ⟨before, turns, goes, held⟩ := run_laps holds working settled
  have goesOn : (Running.run turn onShutdown laps).run ⟨recorded, false⟩ =
      .ok false ⟨before, false⟩ := by
    have looped := goes []
    rw [List.append_nil] at looped
    rw [Running.run, EStateM.run_bind, looped]
    rfl
  refine ⟨before, turns, seen goesOn, ?_⟩
  intro final later stops answered
  obtain ⟨served, ran, turned, steady⟩ := run_turn_of_settled held answered
  obtain ⟨last, broadcast, records, -⟩ := run_broadcast steady .shutdown
  have whole : (Running.run turn onShutdown (laps ++ final :: later)).run ⟨recorded, false⟩ =
      .ok true ⟨last, true⟩ := by
    have looped : (Running.loop turn (laps ++ final :: later)).run ⟨recorded, false⟩ =
        .ok true ⟨served, true⟩ := by
      rw [goes, run_lap later ran, stops]
      cases later <;> rfl
    have ended : (Exec.on Running.stateField onShutdown).run ⟨served, true⟩ =
        .ok () ⟨last, true⟩ := Exec.run_on_ok broadcast
    simp only [Running.run, EStateM.run_bind, looped, Exec.run_when_true, ended]
    rfl
  exact ⟨served, last, turned, records, whole, seen whole⟩

/-- A socket is readable, its observer throws, and `stop()` is called in the next turn. -/
theorem run_until_stopped_after_two :
    let reactor := ((SocketReactor.empty true (fun _ => true) Epoll.strict).outcome
      (.add ⟨100, 3⟩ (.onSocket 1 .readable 0))).2
    let session := Session.start reactor fun _ => ⟨[], true⟩
    ∃ last : Recorded,
      (Running.run Session.turn Session.onShutdown
        [⟨[.ok [⟨Epoll.EPOLLIN, 100⟩]], false⟩, ⟨[.ok []], true⟩]).run ⟨session, false⟩ =
          .ok true ⟨last.session, true⟩ ∧
      last.records =
        [.due ⟨3, .readable, some 0⟩, .dispatched 0 (some .readable),
          .broadcast .timeout [0], .dispatched 0 (some .timeout),
          .broadcast .shutdown [0], .dispatched 0 (some .shutdown)] := by
  intro reactor session
  have ready : session.reactor.Ready none := (ready_empty (fun _ => true) Epoll.strict).outcome _
  have owned : session.reactor.Owned := by
    intro notification
    cases notification <;> decide +kernel
  obtain ⟨_, -, -, ends⟩ := @run_until_stopped session ready.idle ready.sound owned
    [⟨[.ok [⟨Epoll.EPOLLIN, 100⟩]], false⟩] (by simp) (by simp [Errno.retried])
  obtain ⟨_, last, -, -, whole, ran⟩ := ends ⟨[.ok []], true⟩ [] rfl (by simp [Errno.retried])
  refine ⟨last, ran, ?_⟩
  have same := congrArg Running.state (Exec.last_of_ok whole)
  rw [← show _ = last from same]
  decide +kernel

end Recorded

end SocketReactor

end TestReactor
