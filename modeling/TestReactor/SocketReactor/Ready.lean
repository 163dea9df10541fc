import TestReactor.SocketReactor.Locks
import TestReactor.SocketReactor.Outcome
import TestReactor.SocketReactor.Registrations

namespace TestReactor

namespace SocketReactor

/-- A reactor as its calls leave it, its locks being re-entrant. -/
structure Ready (held : Option Nat) (reactor : SocketReactor) : Prop where
  idle : reactor.Idle true held
  sound : reactor.Sound
  distinct : reactor.registered.Distinct

variable {reactor : SocketReactor} {held : Option Nat}

theorem Idle.recursive_cell (idle : reactor.Idle true held) (id : Nat) :
    (reactor.cells id).mutex.Lockable := by
  rw [idle.cell]
  split <;> exact .of_recursive rfl

theorem Ready.run_call (ready : reactor.Ready held) (call : Call) :
    call.run.run reactor = ended (reactor.outcome call) :=
  SocketReactor.run_call ready.idle.unlocked ready.idle.recursive_cell call

theorem Ready.registered_outcome (ready : reactor.Ready held) (call : Call) :
    (reactor.outcome call).2.registered = call.enter reactor.registered :=
  registered_effect ready.sound
    (effect_outcome ready.idle.unlocked ready.idle.recursive_cell call)

theorem Ready.outcome (ready : reactor.Ready held) (call : Call) :
    (reactor.outcome call).2.Ready held := by
  have effect := effect_outcome ready.idle.unlocked ready.idle.recursive_cell call
  refine ⟨ready.idle.effect effect, ready.sound.effect effect, ?_⟩
  rw [ready.registered_outcome]
  exact distinct_enter ready.distinct call

theorem Ready.locked (ready : reactor.Ready none) {id : Nat} (allocated : id < reactor.cellCount) :
    ((observerMutex id).set ((observerMutex id).get reactor).enter reactor).Ready (some id) := by
  refine ⟨ready.idle.entered allocated, ready.sound.locked id _, ?_⟩
  rw [registered_locked]
  exact ready.distinct

theorem Ready.left {id : Nat} (ready : reactor.Ready (some id)) :
    ((observerMutex id).set ((observerMutex id).get reactor).leave reactor).Ready none := by
  refine ⟨ready.idle.left, ready.sound.locked id _, ?_⟩
  rw [registered_locked]
  exact ready.distinct

theorem Ready.withPollSet (ready : reactor.Ready held) {pollSet : PollSet}
    (mutex : pollSet.mutex = reactor.pollSet.mutex) : (reactor.withPollSet pollSet).Ready held :=
  ⟨ready.idle.withPollSet mutex, ready.sound.withPollSet pollSet, ready.distinct⟩

theorem Ready.opened (ready : reactor.Ready held) (fd : Int) : (reactor.opened fd).Ready held :=
  ready.withPollSet rfl

theorem Ready.closing (ready : reactor.Ready held) (fd : Int) : (reactor.closing fd).Ready held :=
  ready.withPollSet rfl

/-! What an `epoll_ctl` that succeeds comes to: on an open descriptor every call returns, but
for the removal of an only observer. -/

section

variable {fd : Int}

theorem unclosed_registered {pollSet next : PollSet} {err : Option Nat}
    (unclosed : pollSet.epoll.closed fd = false) {socket : SocketRef} {mode : PollSet.Mode}
    (registered : pollSet.registered socket mode = (err, next)) :
    next.epoll.closed fd = false := by
  suffices kept : (pollSet.registered socket mode).2.epoll.closed fd = false by
    rwa [registered] at kept
  unfold PollSet.registered
  split
  · split
    · exact Epoll.unclosed_ctl (Epoll.unclosed_ctl unclosed)
    · exact Epoll.unclosed_ctl unclosed
  · exact Epoll.unclosed_ctl unclosed

theorem unclosed_addition (unclosed : reactor.pollSet.epoll.closed fd = false)
    (socket : SocketRef) (observer : Observer) :
    (reactor.addition socket observer).2.pollSet.epoll.closed fd = false := by
  simp only [addition]
  split
  · rw [pollSet_enrolled, pollSet_arrived]
    exact unclosed
  · split <;> rename_i registered
    · rw [pollSet_withPollSet, PollSet.epoll_remembered]
      exact unclosed_registered unclosed registered
    · exact unclosed_registered unclosed registered

theorem unclosed_removal (unclosed : reactor.pollSet.epoll.closed fd = false)
    {socket : SocketRef} {observer : Observer}
    (spares : socket.sockfd = fd → reactor.registered fd ≠ [observer]) :
    (reactor.removal socket observer).2.pollSet.epoll.closed fd = false := by
  unfold removal
  cases listed : reactor.listing socket observer with
  | none => exact unclosed
  | some found =>
      obtain ⟨n, id⟩ := found
      by_cases last : (reactor.notifiers n).observers.length = 1
      · have single := registered_eq_singleton listed last
        have other : fd ≠ socket.sockfd := by
          rintro rfl
          exact spares rfl single
        simp only [if_pos last]
        exact Epoll.unclosed_ctl (Epoll.unclosed_close other unclosed)
      · have same := pollSet_delisted reactor n observer id
        simp only [if_neg last, earlyRemoval]
        split
        · exact Epoll.unclosed_ctl unclosed
        · rw [same]
          exact unclosed

theorem unclosed_outcome (unclosed : reactor.pollSet.epoll.closed fd = false) {call : Call}
    (spares : call.sockfd = fd → reactor.SparesLast call) :
    (reactor.outcome call).2.pollSet.epoll.closed fd = false := by
  cases call with
  | add socket observer => exact unclosed_addition unclosed socket observer
  | remove socket observer =>
      apply unclosed_removal unclosed
      rintro rfl
      exact spares rfl

theorem outcome_of_willing (willing : Epoll.Willing reactor.pollSet.epoll.refusal) {call : Call}
    (unclosed : reactor.pollSet.epoll.closed call.sockfd = false)
    (spares : reactor.SparesLast call) : (reactor.outcome call).1 = none := by
  cases call with
  | add socket observer =>
      have accepted := PollSet.registered_of_willing willing unclosed
      simp only [outcome, addition]
      split
      · rfl
      · split <;> rename_i registered
        · rfl
        · have refused := congrArg Prod.fst registered
          exact absurd ((accepted _).symm.trans refused) (Option.some_ne_none _).symm
  | remove socket observer =>
      simp only [outcome, removal]
      cases listed : reactor.listing socket observer with
      | none => rfl
      | some found =>
          obtain ⟨n, id⟩ := found
          have more := mt (registered_eq_singleton listed) spares
          simp only [if_neg more, earlyRemoval]
          split
          · exact (Epoll.refused_of_open unclosed .mod).trans (willing.mod _ _)
          · rfl

end

theorem outcome_of_last {socket : SocketRef} {observer : Observer}
    (only : reactor.registered socket.sockfd = [observer]) :
    (reactor.outcome (.remove socket observer)).1 ≠ none := by
  cases listed : reactor.listing socket observer with
  | none =>
      have member : observer ∈ reactor.registered socket.sockfd := only ▸ List.mem_singleton_self _
      exact absurd member (listing_eq_none_iff.mp listed)
  | some found =>
      obtain ⟨n, id⟩ := found
      rw [registered_found (listing_eq_some.mp listed).1, observersOf] at only
      have last : (reactor.notifiers n).observers.length = 1 := by
        rw [← List.length_map, only, List.length_singleton]
      simp only [outcome, removal, listed, if_pos last, lastRemoval]
      exact Option.some_ne_none _

theorem ready_empty (owns : SocketNotification → Bool)
    (refusal : Nat → CtlOp → Bool → Option Nat) :
    (SocketReactor.empty true owns refusal).Ready none where
  idle := idle_empty true owns refusal
  sound := sound_empty true owns refusal
  distinct fd := by simp [registered, empty]

end SocketReactor

end TestReactor
