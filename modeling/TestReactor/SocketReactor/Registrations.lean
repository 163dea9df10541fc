import TestReactor.Registry
import TestReactor.SocketReactor.Growth

namespace TestReactor

namespace SocketReactor

/-! The observers that are registered for each descriptor, and what a call does to
them: whether it returns or throws, it enters or strikes out one observer. -/

variable {reactor next : SocketReactor}

def observersOf (reactor : SocketReactor) (n : Nat) : List Observer :=
  (reactor.notifiers n).observers.map fun id => (reactor.cells id).observer

def registered (reactor : SocketReactor) : Registry Int Observer := fun fd =>
  match reactor.handlers[fd]? with
  | some n => reactor.observersOf n
  | none => []

def Call.enter (registry : Registry Int Observer) : Call → Registry Int Observer
  | .add socket observer => registry.add socket.sockfd observer
  | .remove socket observer => registry.remove socket.sockfd observer

section

variable {n id : Nat} {observer : Observer} {fd : Int}

theorem registered_found (found : reactor.handlers[fd]? = some n) :
    reactor.registered fd = reactor.observersOf n := by
  simp only [registered, found]

theorem registered_absent (absent : reactor.handlers[fd]? = none) :
    reactor.registered fd = [] := by
  simp only [registered, absent]

theorem find_isSome_iff (reactor : SocketReactor) (n : Nat) (observer : Observer) :
    (NotificationCenter.find reactor n observer).isSome ↔ observer ∈ reactor.observersOf n := by
  simp only [NotificationCenter.find, List.find?_isSome, Observer.equals, beq_iff_eq,
    observersOf, List.mem_map]
  exact exists_congr fun id => and_congr_right fun _ => eq_comm

theorem find_eq_none_iff :
    NotificationCenter.find reactor n observer = none ↔ observer ∉ reactor.observersOf n := by
  rw [← find_isSome_iff, Option.not_isSome_iff_eq_none]

theorem run_hasObserver (n : Nat) (observer : Observer) (unlocked : reactor.Unlocked) :
    (NotificationCenter.hasObserver n observer).run reactor =
      .ok (decide (observer ∈ reactor.observersOf n)) reactor := by
  have has : (NotificationCenter.find reactor n observer).isSome =
      decide (observer ∈ reactor.observersOf n) := by
    rw [Bool.eq_iff_iff, find_isSome_iff, decide_eq_true_iff]
  rw [NotificationCenter.run_hasObserver n observer unlocked, has]

theorem enrolled_eq (reactor : SocketReactor) (n : Nat) (observer : Observer) :
    reactor.enrolled n observer =
      if observer ∈ reactor.observersOf n then reactor else reactor.enlisted n observer := by
  simp only [enrolled, find_isSome_iff]

/-! The single steps. -/

theorem registered_arrived (sound : reactor.Sound) (fd : Int) :
    (reactor.arrived fd).2.registered = reactor.registered := by
  unfold arrived
  split
  case h_1 => rfl
  case h_2 absent =>
    funext other
    by_cases same : fd = other
    · subst same
      rw [registered_absent absent]
      have made : (reactor.created fd).handlers[fd]? = some reactor.notifierCount := by
        simp only [created, getElem?_insert, if_true]
      rw [registered_found made]
      simp [observersOf, created, putNotifier, Notifier.new]
    · have kept : (reactor.created fd).handlers[other]? = reactor.handlers[other]? := by
        simp only [created, getElem?_insert, if_neg same]
      unfold registered
      rw [kept]
      split
      case h_1 n found =>
        have made := (sound.keyed other n found).1
        have old : n ≠ reactor.notifierCount := by omega
        simp [observersOf, created, putNotifier, old]
      case h_2 => rfl

theorem observers_enlisted (reactor : SocketReactor) (n m : Nat) (observer : Observer) :
    ((reactor.enlisted n observer).notifiers m).observers =
      if m = n then (reactor.notifiers m).observers ++ [reactor.cellCount]
      else (reactor.notifiers m).observers := by
  rw [← observers_cloned reactor n m observer]
  unfold enlisted
  split
  · by_cases same : m = n <;> simp [withEvents, putNotifier, same]
  · rfl

theorem observer_enlisted (reactor : SocketReactor) (n id : Nat) (observer : Observer) :
    ((reactor.enlisted n observer).cells id).observer =
      if id = reactor.cellCount then observer else (reactor.cells id).observer := by
  have cell : (reactor.enlisted n observer).cells = (reactor.cloned n observer).cells := by
    unfold enlisted
    split <;> rfl
  rw [cell]
  by_cases new : id = reactor.cellCount <;> simp [cloned, putNotifier, putCell, Cell.new, new]

theorem handlers_enlisted (reactor : SocketReactor) (n : Nat) (observer : Observer) :
    (reactor.enlisted n observer).handlers = reactor.handlers := by
  unfold enlisted
  split <;> rfl

theorem observersOf_enlisted (sound : reactor.Sound) (n m : Nat) (observer : Observer) :
    (reactor.enlisted n observer).observersOf m =
      if m = n then reactor.observersOf m ++ [observer] else reactor.observersOf m := by
  have old : ((reactor.notifiers m).observers.map fun id =>
      ((reactor.enlisted n observer).cells id).observer) = reactor.observersOf m := by
    apply List.map_congr_left
    intro id member
    have made := sound.listed m id member
    rw [observer_enlisted, if_neg (by omega)]
  unfold observersOf
  rw [observers_enlisted]
  split
  · rw [List.map_append, old, List.map_singleton, observer_enlisted, if_pos rfl]
    rfl
  · exact old

theorem Sound.injective (sound : reactor.Sound) {other : Int}
    (found : reactor.handlers[fd]? = some n) (found' : reactor.handlers[other]? = some n) :
    other = fd :=
  (sound.keyed other n found').2.symm.trans (sound.keyed fd n found).2

theorem registered_enrolled (sound : reactor.Sound) (found : reactor.handlers[fd]? = some n)
    (observer : Observer) :
    (reactor.enrolled n observer).registered = reactor.registered.add fd observer := by
  rw [Registry.add, enrolled_eq, registered_found found]
  by_cases listed : observer ∈ reactor.observersOf n
  · rw [if_pos listed, if_pos listed]
  · rw [if_neg listed, if_neg listed]
    have handlers := handlers_enlisted reactor n observer
    apply Registry.eq_put
    · rw [registered_found (n := n) (by rw [handlers, found]), observersOf_enlisted sound,
        if_pos rfl]
    · intro other different
      unfold registered
      rw [handlers]
      split
      case h_1 m found' =>
        have apart : m ≠ n := by
          rintro rfl
          exact different (sound.injective found found')
        rw [observersOf_enlisted sound, if_neg apart]
      case h_2 => rfl

theorem observer_delisted (reactor : SocketReactor) (n : Nat) (observer : Observer)
    {id other : Nat} (different : other ≠ id) :
    ((reactor.delisted n observer id).cells other).observer = (reactor.cells other).observer := by
  unfold delisted
  split <;> simp [withEvents, unlisted, silenced, putNotifier, putCell, different]

theorem handlers_delisted (reactor : SocketReactor) (n : Nat) (observer : Observer) (id : Nat) :
    (reactor.delisted n observer id).handlers = reactor.handlers := by
  unfold delisted
  split <;> rfl

theorem observersOf_delisted (sound : reactor.Sound)
    (found : NotificationCenter.find reactor n observer = some id) (m : Nat) :
    (reactor.delisted n observer id).observersOf m =
      if m = n then (reactor.observersOf m).erase observer else reactor.observersOf m := by
  have member := mem_of_find found
  unfold observersOf
  rw [observers_delisted]
  split
  case isTrue same =>
    subst same
    rw [← map_erase_of_find found]
    apply List.map_congr_left
    intro other remains
    apply observer_delisted
    rintro rfl
    exact (sound.nodup m).not_mem_erase remains
  case isFalse different =>
    apply List.map_congr_left
    intro other listed
    apply observer_delisted
    rintro rfl
    exact different (sound.apart m n other listed member)

theorem registered_delisted (sound : reactor.Sound) (found : reactor.handlers[fd]? = some n)
    (listed : NotificationCenter.find reactor n observer = some id) :
    (reactor.delisted n observer id).registered = reactor.registered.remove fd observer := by
  have handlers := handlers_delisted reactor n observer id
  apply Registry.eq_put
  · rw [registered_found (n := n) (by rw [handlers, found]), observersOf_delisted sound listed,
      if_pos rfl, registered_found found]
  · intro other different
    unfold registered
    rw [handlers]
    split
    case h_1 m found' =>
      have apart : m ≠ n := by
        rintro rfl
        exact different (sound.injective found found')
      rw [observersOf_delisted sound listed, if_neg apart]
    case h_2 => rfl

theorem registered_forgotten (socket : SocketRef) (pollSet : PollSet) :
    (reactor.forgotten socket pollSet).registered = reactor.registered.put socket.sockfd [] := by
  apply Registry.eq_put
  · apply registered_absent
    simp only [forgotten, getElem?_erase, if_true]
  · intro other different
    have kept : (reactor.forgotten socket pollSet).handlers[other]? = reactor.handlers[other]? := by
      simp only [forgotten, getElem?_erase, if_neg different.symm]
    unfold registered
    rw [kept]
    rfl

end

theorem listing_eq_none_iff {socket : SocketRef} {observer : Observer} :
    reactor.listing socket observer = none ↔ observer ∉ reactor.registered socket.sockfd := by
  unfold listing
  split
  case h_1 n found => rw [Option.map_eq_none_iff, find_eq_none_iff, registered_found found]
  case h_2 absent => simp [registered_absent absent]

theorem mem_registered {socket : SocketRef} {observer : Observer} {n id : Nat}
    (listed : reactor.listing socket observer = some (n, id)) :
    observer ∈ reactor.registered socket.sockfd := by
  by_contra absent
  rw [← listing_eq_none_iff, listed] at absent
  contradiction

theorem registered_eq_singleton {socket : SocketRef} {observer : Observer} {n id : Nat}
    (listed : reactor.listing socket observer = some (n, id))
    (last : (reactor.notifiers n).observers.length = 1) :
    reactor.registered socket.sockfd = [observer] := by
  have member := mem_registered listed
  rw [registered_found (listing_eq_some.mp listed).1] at member ⊢
  have single : (reactor.observersOf n).length = 1 := by rwa [observersOf, List.length_map]
  obtain ⟨only, same⟩ := List.length_eq_one_iff.mp single
  rw [same] at member ⊢
  rw [List.mem_singleton.mp member]

theorem some_left {socket : SocketRef} {observer : Observer} {n id : Nat}
    (listed : reactor.listing socket observer = some (n, id))
    (more : (reactor.notifiers n).observers.length ≠ 1) :
    (reactor.registered socket.sockfd).erase observer ≠ [] := by
  have member := mem_registered listed
  have count : (reactor.registered socket.sockfd).length =
      (reactor.notifiers n).observers.length := by
    rw [registered_found (listing_eq_some.mp listed).1, observersOf, List.length_map]
  have positive := List.length_pos_of_mem member
  rw [← List.length_pos_iff, List.length_erase_of_mem member]
  omega

theorem registered_locked (reactor : SocketReactor) (id : Nat) (mutex : Mutex) :
    ((observerMutex id).set mutex reactor).registered = reactor.registered := by
  have same : ∀ other, (((observerMutex id).set mutex reactor).cells other).observer =
      (reactor.cells other).observer := by
    intro other
    by_cases own : other = id <;> simp [observerMutex, putCell, own]
  funext fd
  unfold registered observersOf
  simp only [same]
  rfl

/-- Every call that comes back, with or without an exception, has done to the
registrations what it was called for. -/
theorem registered_effect (sound : reactor.Sound) {call : Call} {ok : Bool}
    (effect : Effect reactor call next ok) :
    next.registered = call.enter reactor.registered := by
  cases effect with
  | added socket observer pollSet ok mutex =>
      have arrived := sound.arrived socket.sockfd
      have found := arrived_found reactor socket.sockfd
      have entered := registered_enrolled arrived found observer
      rw [registered_arrived sound] at entered
      exact entered
  | unlisted socket observer absent =>
      exact (Registry.remove_of_not_mem (listing_eq_none_iff.mp absent)).symm
  | last socket observer n id pollSet listed last mutex =>
      rw [registered_forgotten, Call.enter, Registry.remove, registered_eq_singleton listed last,
        List.erase_cons_head]
  | more socket observer n id pollSet ok listed more mutex =>
      obtain ⟨found, member⟩ := listing_eq_some.mp listed
      exact registered_delisted sound found member

theorem distinct_enter {registry : Registry Int Observer} (distinct : registry.Distinct)
    (call : Call) : (call.enter registry).Distinct := by
  cases call with
  | add socket observer => exact distinct.add socket.sockfd observer
  | remove socket observer => exact distinct.remove socket.sockfd observer

/-! A notifier with observers that is no longer the handler of its socket: the removal of an
only observer leaves one behind. -/

def Linked (reactor : SocketReactor) : Prop :=
  ∀ n id, id ∈ (reactor.notifiers n).observers →
    reactor.handlers[(reactor.notifiers n).socket]? = some n

def SparesLast (reactor : SocketReactor) : Call → Prop
  | .add _ _ => True
  | .remove socket observer => reactor.registered socket.sockfd ≠ [observer]

instance (reactor : SocketReactor) : DecidablePred reactor.SparesLast
  | .add _ _ => inferInstanceAs (Decidable True)
  | .remove socket observer =>
      inferInstanceAs (Decidable (reactor.registered socket.sockfd ≠ [observer]))

theorem Linked.arrived (linked : reactor.Linked) (fd : Int) : (reactor.arrived fd).2.Linked := by
  unfold SocketReactor.arrived
  split
  case h_1 => exact linked
  case h_2 absent =>
    intro n id member
    by_cases new : n = reactor.notifierCount
    · simp [created, putNotifier, Notifier.new, new] at member
    · simp only [created, putNotifier, if_neg new] at member ⊢
      have found := linked n id member
      rw [getElem?_insert, if_neg, found]
      intro same
      rw [← same, absent] at found
      contradiction

theorem Linked.enrolled (linked : reactor.Linked) (sound : reactor.Sound) {fd : Int} {n : Nat}
    (found : reactor.handlers[fd]? = some n) (observer : Observer) :
    (reactor.enrolled n observer).Linked := by
  unfold SocketReactor.enrolled
  split
  case isTrue => exact linked
  case isFalse =>
    have socket : ∀ m, ((reactor.enlisted n observer).notifiers m).socket =
        (reactor.notifiers m).socket := by
      intro m
      unfold enlisted
      split <;> by_cases same : m = n <;>
        simp [cloned, withEvents, putNotifier, putCell, same]
    intro m id member
    rw [handlers_enlisted, socket]
    rw [observers_enlisted] at member
    split at member
    case isTrue same =>
      rw [same, (sound.keyed fd n found).2, found]
    case isFalse => exact linked m id member

theorem socket_delisted (reactor : SocketReactor) (n m : Nat) (observer : Observer) (id : Nat) :
    ((reactor.delisted n observer id).notifiers m).socket = (reactor.notifiers m).socket := by
  unfold delisted
  split <;> by_cases same : m = n <;>
    simp [withEvents, unlisted, silenced, putNotifier, putCell, same]

theorem Linked.delisted (linked : reactor.Linked) (n : Nat) (observer : Observer) (id : Nat) :
    (reactor.delisted n observer id).Linked := by
  intro m other member
  rw [handlers_delisted, socket_delisted]
  rw [observers_delisted] at member
  split at member
  · exact linked m other (List.mem_of_mem_erase member)
  · exact linked m other member

theorem Linked.effect (linked : reactor.Linked) (sound : reactor.Sound) {call : Call} {ok : Bool}
    (spares : reactor.SparesLast call) (effect : Effect reactor call next ok) : next.Linked := by
  cases effect with
  | added socket observer pollSet ok mutex =>
      exact (linked.arrived socket.sockfd).enrolled (sound.arrived socket.sockfd)
        (arrived_found reactor socket.sockfd) observer
  | unlisted socket observer absent => exact linked
  | last socket observer n id pollSet listed last mutex =>
      exact absurd (registered_eq_singleton listed last) spares
  | more socket observer n id pollSet ok listed more mutex => exact linked.delisted n observer id

end SocketReactor

end TestReactor
