import TestReactor.Runs
import TestReactor.SimpleEpoll.Spec

namespace TestReactor

/-! Whether a connection slot echoes what it receives. -/

namespace SimpleEpoll

variable {size : Nat}

/-- The server with the bytes that have passed over the connection in one slot. -/
structure Connection (size : Nat) where
  state : State size
  received : List UInt8
  sent : List UInt8

inductive Call where
  | recv (answer : Except Nat (List UInt8))
  | send (answer : Except Nat Nat)

def step (ev : Nat) (connection : Connection size) : Call → Option (Connection size)
  | .recv answer =>
      let event := connection.state.events ev
      if event.Receives then
        match (handleRecv answer event.fd event.arg).run connection.state with
        | .ok data next => some ⟨next, connection.received ++ data, connection.sent⟩
        | .error _ _ => none
      else none
  | .send answer =>
      let event := connection.state.events ev
      if event.Sends then
        match (handleSend answer event.fd event.arg).run connection.state with
        | .ok data next => some ⟨next, connection.received, connection.sent ++ data⟩
        | .error _ _ => none
      else none

/-- The slot as `handle_accept` leaves it for a new connection. -/
def accepted (state : State size) (ev : Nat) (cfd : Int) : Connection size where
  state := (state.setEvent ev cfd .handleRecv ev).eventAdd Epoll.EPOLLIN ev
  received := []
  sent := []

def Faithful (ev : Nat) (connection : Connection size) : Prop :=
  (connection.state.events ev).Receives → connection.sent = connection.received

/-- A `send` that takes anything takes all that it is offered. -/
def TakesAll (ev : Nat) (connection : Connection size) : Call → Prop
  | .send (.ok count) => count = 0 ∨ (connection.state.events ev).offered ≤ count
  | .send (.error _) => True
  | .recv _ => True

inductive Echoing (ev : Nat) (connection : Connection BUFF_LEN) : Prop where
  | receiving (receives : (connection.state.events ev).Receives)
      (arg : (connection.state.events ev).arg = some ev)
      (echoed : connection.sent = connection.received)
  | sending (chunk : List UInt8) (holds : (connection.state.events ev).Holds ev chunk)
      (held : connection.received = connection.sent ++ chunk)
  | closed (free : (connection.state.events ev).status = 0)

section

variable {ev : Nat} {connection next : Connection BUFF_LEN}

theorem echoing_accepted (state : State BUFF_LEN) (ev : Nat) (cfd : Int) :
    Echoing ev (accepted state ev cfd) := by
  apply Echoing.receiving
  · rw [accepted, State.eventAdd_setEvent, State.events_armed]
    exact ⟨rfl, rfl, rfl⟩
  · rw [accepted, State.eventAdd_setEvent, State.events_armed]
    rfl
  · rfl

theorem Echoing.faithful (echoing : Echoing ev connection) : Faithful ev connection := by
  intro receives
  cases echoing with
  | receiving _ _ echoed => exact echoed
  | sending chunk holds held => exact absurd holds.sends receives.not_sends
  | closed free =>
      have busy := free.symm.trans receives.2.1
      contradiction

theorem Echoing.recv (echoing : Echoing ev connection) {answer : Except Nat (List UInt8)}
    (stepped : step ev connection (.recv answer) = some next) : Echoing ev next := by
  rw [step, Option.ite_none_right_eq_some] at stepped
  obtain ⟨receives, stepped⟩ := stepped
  cases echoing with
  | receiving _ arg echoed =>
      rcases run_handleRecv receives (connection.state.events ev).fd answer with
        ⟨chunk, event, ran, holds, -⟩ | ⟨event, ran, free, -⟩
      · rw [arg, ran] at stepped
        cases stepped
        refine .sending chunk ?_ (by simp [echoed])
        rw [State.events_rearmed]
        exact holds
      · rw [arg, ran] at stepped
        cases stepped
        apply Echoing.closed
        rw [State.events_shut]
        exact free
  | sending chunk holds held => exact absurd holds.sends receives.not_sends
  | closed free =>
      have busy := free.symm.trans receives.2.1
      contradiction

theorem Echoing.send (echoing : Echoing ev connection) {answer : Except Nat Nat}
    (stepped : step ev connection (.send answer) = some next) :
    (TakesAll ev connection (.send answer) → Echoing ev next) ∧
      (Faithful ev next → TakesAll ev connection (.send answer)) := by
  rw [step, Option.ite_none_right_eq_some] at stepped
  obtain ⟨sends, stepped⟩ := stepped
  cases echoing with
  | receiving receives _ _ => exact absurd sends receives.not_sends
  | sending chunk holds held =>
      have within : (connection.state.events ev).offered ≤ chunk.length := by
        rw [holds.offered]
        split <;> omega
      have offered := holds.offered
      rcases run_handleSend holds within (connection.state.events ev).fd answer with
        ⟨count, event, rfl, positive, ran, receives, arg, -⟩ | ⟨nothing, event, ran, free, -⟩
      · rw [holds.arg, ran] at stepped
        cases stepped
        constructor
        · intro all
          have complete : chunk.take (min count (connection.state.events ev).offered) =
              chunk := by
            apply List.take_of_length_le
            simp only [TakesAll] at all
            split at offered <;> omega
          apply Echoing.receiving
          · rw [State.events_rearmed]
            exact receives
          · rw [State.events_rearmed]
            exact arg
          · rw [complete, held]
        · intro faithful
          have echoed := congrArg List.length (faithful (by
            rw [State.events_rearmed]
            exact receives))
          simp only [held, List.length_append, List.length_take] at echoed
          simp only [TakesAll]
          omega
      · rw [holds.arg, ran] at stepped
        cases stepped
        have closes : Echoing ev
            ⟨connection.state.shut ev event, connection.received, connection.sent ++ []⟩ := by
          apply Echoing.closed
          rw [State.events_shut]
          exact free
        refine ⟨fun _ => closes, fun _ => ?_⟩
        cases answer with
        | error errno => trivial
        | ok count =>
            have none_taken := nothing count rfl
            simp only [TakesAll]
            omega
  | closed free =>
      have busy := free.symm.trans sends.2.1
      contradiction

/-- A slot echoes faithfully throughout exactly the runs in which every `send` that
takes anything takes all that it is offered: `handle_send` drops what is left. -/
theorem faithful_iff_takes_all (state : State BUFF_LEN) (ev : Nat) (cfd : Int)
    (calls : List Call) :
    Runs.Always (step ev) (Faithful ev) (accepted state ev cfd) calls ↔
      Runs.Each (step ev) (TakesAll ev) (accepted state ev cfd) calls := by
  apply Runs.always_iff_each (Echoing ev)
  · intro connection call next echoing stepped all
    cases call with
    | recv answer => exact echoing.recv stepped
    | send answer => exact (echoing.send stepped).1 all
  · intro connection echoing
    exact echoing.faithful
  · intro connection call next echoing stepped faithful
    cases call with
    | recv answer => trivial
    | send answer => exact (echoing.send stepped).2 faithful
  · exact echoing_accepted state ev cfd

end

/-- Two bytes come in and `send` takes the first: the second is never sent. -/
theorem short_send_drops_byte :
    let server : State BUFF_LEN := ⟨fun _ => .zero _, .empty, .empty Epoll.strict, []⟩
    let calls := [Call.recv (.ok [1, 2]), .send (.ok 1)]
    ¬ Runs.Always (step 0) (Faithful 0) (accepted server 0 5) calls ∧
      ∃ connection, Runs.exec (step 0) (accepted server 0 5) calls = some connection ∧
        connection.received = [1, 2] ∧ connection.sent = [1] := by
  constructor
  · intro always
    have echoed := ((always _ rfl).2 _ rfl).1 ⟨rfl, rfl, rfl⟩
    contradiction
  · exact ⟨_, rfl, rfl, rfl⟩

end SimpleEpoll

end TestReactor
