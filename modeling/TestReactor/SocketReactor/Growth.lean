import TestReactor.SocketReactor.Effect

namespace TestReactor

namespace SocketReactor

/-! What no call undoes. -/

variable {reactor next third : SocketReactor}

/-- Handlers, lists and numbers fit together, and no cell is listed twice. -/
structure Sound (reactor : SocketReactor) : Prop where
  keyed : ∀ fd n, reactor.handlers[fd]? = some n →
    n < reactor.notifierCount ∧ (reactor.notifiers n).socket = fd
  listed : ∀ n id, id ∈ (reactor.notifiers n).observers → id < reactor.cellCount
  unmade : ∀ n, reactor.notifierCount ≤ n → (reactor.notifiers n).observers = []
  nodup : ∀ n, (reactor.notifiers n).observers.Nodup
  apart : ∀ n m id, id ∈ (reactor.notifiers n).observers →
    id ∈ (reactor.notifiers m).observers → n = m

/-- Notifiers and cells stay; an observer leaves a list only when it is disabled, and
nothing enables it again. -/
structure Grows (reactor next : SocketReactor) : Prop where
  notifiers : ∀ n, n < reactor.notifierCount →
    n < next.notifierCount ∧ (next.notifiers n).socket = (reactor.notifiers n).socket
  cells : ∀ id, id < reactor.cellCount → id < next.cellCount ∧
    ((next.cells id).observer = (reactor.cells id).observer ∨
      (next.cells id).observer = (reactor.cells id).observer.disabled)
  lists : ∀ n id, n < reactor.notifierCount → id < reactor.cellCount →
    id ∈ (reactor.notifiers n).observers →
    id ∈ (next.notifiers n).observers ∨ (next.cells id).observer.object = none

theorem Grows.refl (reactor : SocketReactor) : Grows reactor reactor where
  notifiers _ made := ⟨made, rfl⟩
  cells _ made := ⟨made, .inl rfl⟩
  lists _ _ _ _ member := .inl member

theorem Grows.trans (first : Grows reactor next) (second : Grows next third) :
    Grows reactor third where
  notifiers := by
    intro n made
    obtain ⟨still, same⟩ := first.notifiers n made
    obtain ⟨again, same'⟩ := second.notifiers n still
    exact ⟨again, same'.trans same⟩
  cells := by
    intro id made
    obtain ⟨still, same⟩ := first.cells id made
    obtain ⟨again, same'⟩ := second.cells id still
    refine ⟨again, ?_⟩
    rcases same with same | same <;> rcases same' with same' | same' <;>
      simp [same, same', Observer.disabled]
  lists := by
    intro n id made allocated member
    obtain ⟨still, _⟩ := first.notifiers n made
    obtain ⟨kept, _⟩ := first.cells id allocated
    obtain ⟨_, same⟩ := second.cells id kept
    rcases first.lists n id made allocated member with member | off
    · exact second.lists n id still kept member
    · refine .inr ?_
      rcases same with same | same
      · rw [same, off]
      · rw [same]
        rfl

section Steps

variable (reactor) (n id : Nat) (observer : Observer) (sockfd : Int)

theorem grows_created : Grows reactor (reactor.created sockfd) where
  notifiers := by
    intro m made
    have different : m ≠ reactor.notifierCount := by omega
    simp [created, putNotifier, different]
    omega
  cells _ made := ⟨made, .inl rfl⟩
  lists := by
    intro m other made _ member
    have different : m ≠ reactor.notifierCount := by omega
    simp [created, putNotifier, different, member]

theorem grows_putNotifier (notifier : Notifier)
    (socket : notifier.socket = (reactor.notifiers n).socket)
    (observers : (reactor.notifiers n).observers ⊆ notifier.observers) :
    Grows reactor (reactor.putNotifier n notifier) where
  notifiers := by
    intro m made
    refine ⟨made, ?_⟩
    by_cases same : m = n
    · simp [putNotifier, same, socket]
    · simp [putNotifier, same]
  cells _ made := ⟨made, .inl rfl⟩
  lists := by
    intro m other _ _ member
    by_cases same : m = n
    · rw [same] at member
      simp [putNotifier, same, observers member]
    · simp [putNotifier, same, member]

theorem grows_cloned : Grows reactor (reactor.cloned n observer) where
  notifiers := by
    intro m made
    refine ⟨made, ?_⟩
    by_cases same : m = n <;> simp [cloned, putNotifier, putCell, same]
  cells := by
    intro other made
    have different : other ≠ reactor.cellCount := by omega
    simp [cloned, putNotifier, putCell, different]
    omega
  lists := by
    intro m other _ _ member
    by_cases same : m = n
    · rw [same] at member
      simp [cloned, putNotifier, same, member]
    · simp [cloned, putNotifier, putCell, same, member]

theorem grows_silenced : Grows reactor (reactor.silenced id) where
  notifiers _ made := ⟨made, rfl⟩
  cells := by
    intro other made
    by_cases same : other = id <;> simp [silenced, putCell, same]
    · omega
    · exact made
  lists _ _ _ _ member := .inl member

theorem grows_unlisted (off : (reactor.cells id).observer.object = none) :
    Grows reactor (reactor.unlisted n id) where
  notifiers := by
    intro m made
    refine ⟨made, ?_⟩
    by_cases same : m = n <;> simp [unlisted, putNotifier, same]
  cells _ made := ⟨made, .inl rfl⟩
  lists := by
    intro m other _ _ member
    by_cases removed : other = id
    · exact .inr (removed ▸ off)
    · refine .inl ?_
      by_cases same : m = n
      · rw [same] at member
        simp [unlisted, putNotifier, same, List.mem_erase_of_ne removed, member]
      · simp [unlisted, putNotifier, same, member]

theorem grows_enrolled : Grows reactor (reactor.enrolled n observer) := by
  unfold enrolled enlisted
  split
  · exact .refl reactor
  · split
    · exact (grows_cloned reactor n observer).trans
        (grows_putNotifier _ n _ rfl (List.Subset.refl _))
    · exact grows_cloned reactor n observer

theorem grows_arrived : Grows reactor (reactor.arrived sockfd).2 := by
  unfold arrived
  split
  · exact .refl reactor
  · exact grows_created reactor sockfd

theorem grows_delisted : Grows reactor (reactor.delisted n observer id) := by
  have removed : Grows reactor ((reactor.silenced id).unlisted n id) :=
    (grows_silenced reactor id).trans
      (grows_unlisted _ n id (by simp [silenced, Observer.disabled]))
  unfold delisted
  split
  · exact removed.trans (grows_putNotifier _ n _ rfl (List.Subset.refl _))
  · exact removed

end Steps

theorem grows_locked (reactor : SocketReactor) (id : Nat) (mutex : Mutex) :
    Grows reactor ((observerMutex id).set mutex reactor) where
  notifiers _ made := ⟨made, rfl⟩
  cells := by
    intro other made
    by_cases same : other = id <;> simp [observerMutex, putCell, same]
    · omega
    · exact made
  lists _ _ _ _ member := .inl member

theorem Grows.withPollSet (grows : Grows reactor next) (pollSet : PollSet) :
    Grows reactor (next.withPollSet pollSet) :=
  ⟨grows.notifiers, grows.cells, grows.lists⟩

theorem Grows.effect {call : Call} {ok : Bool} (effect : Effect reactor call next ok) :
    Grows reactor next := by
  cases effect with
  | added socket observer pollSet ok mutex =>
      exact ((grows_arrived reactor socket.sockfd).trans
        (grows_enrolled _ _ observer)).withPollSet pollSet
  | unlisted socket observer absent => exact .refl reactor
  | last socket observer n id pollSet listed last mutex =>
      exact ⟨(Grows.refl reactor).notifiers, (Grows.refl reactor).cells,
        (Grows.refl reactor).lists⟩
  | more socket observer n id pollSet ok listed more mutex =>
      exact (grows_delisted reactor n id observer).withPollSet pollSet

/-! Soundness is kept. -/

theorem getElem?_insert (handlers : Std.TreeMap Int Nat) (fd other : Int) (n : Nat) :
    (handlers.insert fd n)[other]? = if fd = other then some n else handlers[other]? := by
  rw [Std.TreeMap.getElem?_insert]
  simp

theorem getElem?_erase (handlers : Std.TreeMap Int Nat) (fd other : Int) :
    (handlers.erase fd)[other]? = if fd = other then none else handlers[other]? := by
  rw [Std.TreeMap.getElem?_erase]
  simp

theorem arrived_found (reactor : SocketReactor) (fd : Int) :
    (reactor.arrived fd).2.handlers[fd]? = some (reactor.arrived fd).1 := by
  unfold arrived
  split
  case h_1 n found => exact found
  case h_2 absent =>
    simp only [created]
    rw [getElem?_insert, if_pos rfl]

theorem observers_created (reactor : SocketReactor) (fd : Int) (n : Nat) :
    ((reactor.created fd).notifiers n).observers = [] ∨
      ((reactor.created fd).notifiers n).observers = (reactor.notifiers n).observers := by
  by_cases new : n = reactor.notifierCount
  · simp [created, putNotifier, Notifier.new, new]
  · simp [created, putNotifier, new]

theorem Sound.created (sound : reactor.Sound) (fd : Int) : (reactor.created fd).Sound where
  keyed := by
    intro other n found
    simp only [SocketReactor.created] at found
    rw [getElem?_insert] at found
    split at found
    case isTrue same =>
      cases found
      simp [SocketReactor.created, SocketReactor.putNotifier, Notifier.new, same]
    case isFalse different =>
      obtain ⟨made, socket⟩ := sound.keyed other n found
      have old : n ≠ reactor.notifierCount := by omega
      simp [SocketReactor.created, SocketReactor.putNotifier, old, socket]
      omega
  listed := by
    intro n id member
    by_cases new : n = reactor.notifierCount
    · simp [SocketReactor.created, SocketReactor.putNotifier, Notifier.new, new] at member
    · simp only [SocketReactor.created, SocketReactor.putNotifier, if_neg new] at member
      exact sound.listed n id member
  unmade := by
    intro n unmade
    have different : n ≠ reactor.notifierCount := by
      simp only [SocketReactor.created] at unmade
      omega
    simp only [SocketReactor.created, SocketReactor.putNotifier, if_neg different]
    apply sound.unmade
    simp only [SocketReactor.created] at unmade
    omega
  nodup := by
    intro n
    rcases observers_created reactor fd n with empty | same
    · rw [empty]
      exact List.nodup_nil
    · rw [same]
      exact sound.nodup n
  apart := by
    intro n m id first second
    rcases observers_created reactor fd n with empty | same
    · rw [empty] at first
      contradiction
    · rcases observers_created reactor fd m with empty | same'
      · rw [empty] at second
        contradiction
      · rw [same] at first
        rw [same'] at second
        exact sound.apart n m id first second

theorem Sound.arrived (sound : reactor.Sound) (fd : Int) : (reactor.arrived fd).2.Sound := by
  unfold SocketReactor.arrived
  split
  · exact sound
  · exact sound.created fd

theorem Sound.putNotifier (sound : reactor.Sound) (n : Nat) (notifier : Notifier)
    (socket : notifier.socket = (reactor.notifiers n).socket)
    (observers : notifier.observers.Sublist (reactor.notifiers n).observers) :
    (reactor.putNotifier n notifier).Sound where
  keyed := by
    intro fd m found
    obtain ⟨made, same⟩ := sound.keyed fd m found
    refine ⟨made, ?_⟩
    by_cases changed : m = n
    · simp [SocketReactor.putNotifier, changed, socket, ← same]
    · simp [SocketReactor.putNotifier, changed, same]
  listed := by
    intro m id member
    by_cases changed : m = n
    · simp only [SocketReactor.putNotifier, if_pos changed] at member
      exact sound.listed n id (observers.subset member)
    · simp only [SocketReactor.putNotifier, if_neg changed] at member
      exact sound.listed m id member
  unmade := by
    intro m unmade
    by_cases changed : m = n
    · simp only [SocketReactor.putNotifier, if_pos changed]
      have empty := sound.unmade n (changed ▸ unmade)
      rw [empty] at observers
      exact List.sublist_nil.mp observers
    · simp only [SocketReactor.putNotifier, if_neg changed]
      exact sound.unmade m unmade
  nodup := by
    intro m
    by_cases changed : m = n
    · simp only [SocketReactor.putNotifier, if_pos changed]
      exact (sound.nodup n).sublist observers
    · simp only [SocketReactor.putNotifier, if_neg changed]
      exact sound.nodup m
  apart := by
    have fewer : ∀ m, ((reactor.putNotifier n notifier).notifiers m).observers ⊆
        (reactor.notifiers m).observers := by
      intro m
      by_cases changed : m = n
      · simpa [SocketReactor.putNotifier, changed] using observers.subset
      · simp [SocketReactor.putNotifier, changed]
    intro first second id member member'
    exact sound.apart first second id (fewer first member) (fewer second member')

theorem observers_cloned (reactor : SocketReactor) (n m : Nat) (observer : Observer) :
    ((reactor.cloned n observer).notifiers m).observers =
      if m = n then (reactor.notifiers m).observers ++ [reactor.cellCount]
      else (reactor.notifiers m).observers := by
  by_cases same : m = n <;> simp [cloned, putNotifier, putCell, same]

theorem Sound.cloned (sound : reactor.Sound) {n : Nat} (made : n < reactor.notifierCount)
    (observer : Observer) : (reactor.cloned n observer).Sound where
  keyed := by
    intro fd m found
    obtain ⟨made, same⟩ := sound.keyed fd m found
    refine ⟨made, ?_⟩
    by_cases changed : m = n
    · simp [SocketReactor.cloned, SocketReactor.putNotifier, changed, ← same]
    · simp [SocketReactor.cloned, SocketReactor.putNotifier, SocketReactor.putCell, changed, same]
  listed := by
    intro m id member
    by_cases changed : m = n
    · simp only [SocketReactor.cloned, SocketReactor.putNotifier, if_pos changed,
        List.mem_append, List.mem_singleton] at member
      rcases member with old | rfl
      · exact Nat.lt_succ_of_lt (sound.listed n id old)
      · exact Nat.lt_succ_self _
    · simp only [SocketReactor.cloned, SocketReactor.putNotifier, if_neg changed] at member
      exact Nat.lt_succ_of_lt (sound.listed m id member)
  unmade := by
    intro m unmade
    have different : m ≠ n := by
      simp only [SocketReactor.cloned] at unmade
      have limit : reactor.notifierCount ≤ m := unmade
      omega
    simp only [SocketReactor.cloned, SocketReactor.putNotifier, if_neg different]
    exact sound.unmade m unmade
  nodup := by
    intro m
    rw [observers_cloned]
    split
    · refine List.nodup_append.mpr ⟨sound.nodup m, List.nodup_singleton _, ?_⟩
      intro id member new fresh same
      have old := sound.listed m id member
      have count := List.mem_singleton.mp fresh
      omega
    · exact sound.nodup m
  apart := by
    intro first second id member member'
    rw [observers_cloned] at member member'
    split at member <;> split at member'
    case isTrue.isTrue changed changed' => exact changed.trans changed'.symm
    case isTrue.isFalse changed _ =>
      rcases List.mem_append.mp member with old | new
      · exact sound.apart first second id old member'
      · have count := List.mem_singleton.mp new
        have old := sound.listed second id member'
        omega
    case isFalse.isTrue _ changed =>
      rcases List.mem_append.mp member' with old | new
      · exact sound.apart first second id member old
      · have count := List.mem_singleton.mp new
        have old := sound.listed first id member
        omega
    case isFalse.isFalse => exact sound.apart first second id member member'

theorem Sound.enlisted (sound : reactor.Sound) {n : Nat} (made : n < reactor.notifierCount)
    (observer : Observer) : (reactor.enlisted n observer).Sound := by
  unfold SocketReactor.enlisted
  split
  · exact (sound.cloned made observer).putNotifier n _ rfl (List.Sublist.refl _)
  · exact sound.cloned made observer

theorem Sound.enrolled (sound : reactor.Sound) {n : Nat} (made : n < reactor.notifierCount)
    (observer : Observer) : (reactor.enrolled n observer).Sound := by
  unfold SocketReactor.enrolled
  split
  · exact sound
  · exact sound.enlisted made observer

theorem Sound.unlisted (sound : reactor.Sound) (n id : Nat) :
    ((reactor.silenced id).unlisted n id).Sound := by
  have silenced : (reactor.silenced id).Sound :=
    ⟨sound.keyed, sound.listed, sound.unmade, sound.nodup, sound.apart⟩
  exact silenced.putNotifier n _ rfl List.erase_sublist

theorem Sound.delisted (sound : reactor.Sound) (n : Nat) (observer : Observer) (id : Nat) :
    (reactor.delisted n observer id).Sound := by
  have removed := sound.unlisted n id
  unfold SocketReactor.delisted
  split
  · exact removed.putNotifier n _ rfl (List.Sublist.refl _)
  · exact removed

theorem Sound.withPollSet (sound : reactor.Sound) (pollSet : PollSet) :
    (reactor.withPollSet pollSet).Sound :=
  ⟨sound.keyed, sound.listed, sound.unmade, sound.nodup, sound.apart⟩

theorem Sound.forgotten (sound : reactor.Sound) (socket : SocketRef) (pollSet : PollSet) :
    (reactor.forgotten socket pollSet).Sound where
  keyed := by
    intro fd n found
    simp only [SocketReactor.forgotten] at found
    rw [getElem?_erase] at found
    split at found
    · contradiction
    · exact sound.keyed fd n found
  listed := sound.listed
  unmade := sound.unmade
  nodup := sound.nodup
  apart := sound.apart

theorem Sound.locked (sound : reactor.Sound) (id : Nat)
    (mutex : Mutex) : ((observerMutex id).set mutex reactor).Sound :=
  ⟨sound.keyed, sound.listed, sound.unmade, sound.nodup, sound.apart⟩

theorem Sound.effect (sound : reactor.Sound) {call : Call} {ok : Bool}
    (effect : Effect reactor call next ok) : next.Sound := by
  cases effect with
  | added socket observer pollSet ok mutex =>
      have arrived := sound.arrived socket.sockfd
      have made := (arrived.keyed _ _ (arrived_found reactor socket.sockfd)).1
      exact (arrived.enrolled made observer).withPollSet pollSet
  | unlisted socket observer absent => exact sound
  | last socket observer n id pollSet listed last mutex => exact sound.forgotten socket pollSet
  | more socket observer n id pollSet ok listed more mutex =>
      exact (sound.delisted n observer id).withPollSet pollSet

theorem sound_empty (recursive : Bool) (owns : SocketNotification → Bool)
    (refusal : Nat → CtlOp → Bool → Option Nat) :
    (SocketReactor.empty recursive owns refusal).Sound where
  keyed := by
    intro fd n found
    simp [empty] at found
  listed := by
    intro n id member
    simp [empty, Notifier.new] at member
  unmade _ _ := rfl
  nodup _ := List.nodup_nil
  apart := by
    intro n m id member
    simp [empty, Notifier.new] at member

end SocketReactor

end TestReactor
