import TestReactor.SocketReactor.Posting

namespace TestReactor

namespace SocketReactor

/-! Who is called back in a post: an induction over the copied list, along which the
centre's own list is kept in step with the edits made so far. -/

variable {first reactor next : SocketReactor} {n id : Nat} {held : Option Nat}
variable {edits : List (Edit Observer)}

def edited (reactor : SocketReactor) (n : Nat) : Edit Observer → SocketReactor
  | .add observer => reactor.cloned n observer
  | .remove observer =>
      match NotificationCenter.find reactor n observer with
      | some id => (reactor.silenced id).unlisted n id
      | none => reactor

theorem run_edit (idle : reactor.Idle true held) (n : Nat) (edit : Edit Observer) :
    (NotificationCenter.edit n edit).run reactor = .ok () (reactor.edited n edit) := by
  cases edit with
  | add observer => exact NotificationCenter.run_addObserver n observer idle.unlocked
  | remove observer =>
      rw [NotificationCenter.edit, edited]
      split
      case h_1 id found =>
        exact NotificationCenter.run_removeObserver_ok idle.unlocked found
          (idle.recursive_cell id)
      case h_2 absent => exact NotificationCenter.run_removeObserver_none idle.unlocked absent

/-! What the two edits change of the list and of the cells. -/

theorem observer_cloned (made : id < reactor.cellCount) (n : Nat) (observer : Observer) :
    ((reactor.cloned n observer).cells id).observer = (reactor.cells id).observer := by
  simp [cloned, putNotifier, putCell, Nat.ne_of_lt made]

theorem observers_unlisted (reactor : SocketReactor) (n id : Nat) :
    (((reactor.silenced id).unlisted n id).notifiers n).observers =
      (reactor.notifiers n).observers.erase id := by
  simp [unlisted, silenced, putCell]

theorem observer_unlisted {other : Nat} (different : other ≠ id) (reactor : SocketReactor)
    (n : Nat) : (((reactor.silenced id).unlisted n id).cells other).observer =
      (reactor.cells other).observer := by
  simp [unlisted, silenced, putNotifier, putCell, different]

/-- The list of a centre, with those of its entries tagged that were made before the cell
`limit`. -/
def marked (limit : Nat) (reactor : SocketReactor) (n : Nat) : List (Option Nat × Observer) :=
  (reactor.notifiers n).observers.map fun id =>
    (if id < limit then some id else none, (reactor.cells id).observer)

theorem marked_cloned {limit : Nat} (sound : reactor.Sound) (grown : limit ≤ reactor.cellCount)
    (n : Nat) (observer : Observer) :
    marked limit (reactor.cloned n observer) n = marked limit reactor n ++ [(none, observer)] := by
  have own : ((reactor.cloned n observer).cells reactor.cellCount).observer = observer := by
    simp [cloned, putNotifier, Cell.new]
  have late : ¬ reactor.cellCount < limit := by omega
  rw [marked, observers_cloned, if_pos rfl, List.map_append, List.map_singleton, own,
    if_neg late, marked]
  congr 1
  apply List.map_congr_left
  intro id member
  rw [observer_cloned (sound.listed n id member)]

theorem marked_unlisted {limit : Nat} (sound : reactor.Sound) {observer : Observer}
    (found : NotificationCenter.find reactor n observer = some id) :
    marked limit ((reactor.silenced id).unlisted n id) n =
      (marked limit reactor n).eraseP fun entry => observer == entry.2 := by
  have struck : ((reactor.notifiers n).observers.erase id).map (fun id =>
      (if id < limit then some id else none, (reactor.cells id).observer)) =
      (marked limit reactor n).eraseP fun entry => observer == entry.2 :=
    map_erase_of_find_meets found
  rw [← struck, marked, observers_unlisted]
  apply List.map_congr_left
  intro other remains
  have different : other ≠ id := by
    rintro rfl
    exact (sound.nodup n).not_mem_erase remains
  rw [observer_unlisted different]

theorem marked_edited {limit : Nat} (sound : reactor.Sound) (grown : limit ≤ reactor.cellCount)
    (n : Nat) (edit : Edit Observer) :
    marked limit (reactor.edited n edit) n = Edit.applyTagged (marked limit reactor n) edit := by
  cases edit with
  | add observer => exact marked_cloned sound grown n observer
  | remove observer =>
      rw [edited, Edit.applyTagged]
      split
      case h_1 id found => exact marked_unlisted sound found
      case h_2 absent =>
        symm
        apply List.eraseP_of_forall_not
        intro entry member same
        obtain ⟨id, listed, rfl⟩ := List.mem_map.mp member
        exact List.find?_eq_none.mp absent id listed same

/-- Of an entry that was in the list when it was copied: it is still there, or it has been
disabled. -/
def Kept (reactor : SocketReactor) (n id : Nat) (observer : Observer) : Prop :=
  id ∈ (reactor.notifiers n).observers ∧ (reactor.cells id).observer = observer ∨
    id ∉ (reactor.notifiers n).observers ∧ (reactor.cells id).observer.object = none

theorem Kept.cloned {observer : Observer} (kept : reactor.Kept n id observer)
    (allocated : id < reactor.cellCount) (other : Observer) :
    (reactor.cloned n other).Kept n id observer := by
  have old : id ≠ reactor.cellCount := Nat.ne_of_lt allocated
  rw [Kept, observer_cloned allocated, observers_cloned, if_pos rfl, List.mem_append,
    List.mem_singleton]
  simpa [Kept, old] using kept

theorem Kept.unlisted {observer : Observer} (kept : reactor.Kept n id observer)
    (sound : reactor.Sound) (other : Nat) :
    ((reactor.silenced other).unlisted n other).Kept n id observer := by
  rw [Kept, observers_unlisted]
  by_cases same : id = other
  · refine .inr ⟨?_, ?_⟩
    · rw [same]
      exact (sound.nodup n).not_mem_erase
    · simp [SocketReactor.unlisted, silenced, putNotifier, putCell, same, Observer.disabled]
  · rwa [observer_unlisted same, List.mem_erase_of_ne same]

/-- What a reactor is in a post that began in `first`, once `edits` have been made. -/
structure Abreast (first : SocketReactor) (n : Nat) (held : Option Nat)
    (edits : List (Edit Observer)) (reactor : SocketReactor) : Prop where
  idle : reactor.Idle true held
  sound : reactor.Sound
  made : n < reactor.notifierCount
  grown : first.cellCount ≤ reactor.cellCount
  list : marked first.cellCount reactor n =
    edits.foldl Edit.applyTagged (marked first.cellCount first n)
  copied : ∀ id ∈ (first.notifiers n).observers,
    id < first.cellCount ∧ reactor.Kept n id (first.cells id).observer

theorem abreast_self (idle : reactor.Idle true none) (sound : reactor.Sound)
    (made : n < reactor.notifierCount) : Abreast reactor n none [] reactor where
  idle := idle
  sound := sound
  made := made
  grown := Nat.le_refl _
  list := rfl
  copied id member := ⟨sound.listed n id member, .inl ⟨member, rfl⟩⟩

theorem Abreast.edited (abreast : Abreast first n held edits reactor) (edit : Edit Observer) :
    Abreast first n held (edits ++ [edit]) (reactor.edited n edit) := by
  have list : marked first.cellCount (reactor.edited n edit) n =
      (edits ++ [edit]).foldl Edit.applyTagged (marked first.cellCount first n) := by
    rw [marked_edited abreast.sound abreast.grown, abreast.list, List.foldl_append]
    rfl
  cases edit with
  | add observer =>
      refine ⟨abreast.idle.cloned n observer, abreast.sound.cloned abreast.made observer,
        abreast.made, Nat.le_succ_of_le abreast.grown, list, ?_⟩
      intro id member
      obtain ⟨allocated, kept⟩ := abreast.copied id member
      exact ⟨allocated, kept.cloned (Nat.lt_of_lt_of_le allocated abreast.grown) observer⟩
  | remove observer =>
      rw [SocketReactor.edited] at list ⊢
      split at list
      case h_1 other found =>
        refine ⟨(abreast.idle.silenced other).unlisted n other, abreast.sound.unlisted n other,
          abreast.made, abreast.grown, list, ?_⟩
        intro id member
        obtain ⟨allocated, kept⟩ := abreast.copied id member
        exact ⟨allocated, kept.unlisted abreast.sound other⟩
      case h_2 =>
        exact ⟨abreast.idle, abreast.sound, abreast.made, abreast.grown, list, abreast.copied⟩

/-! The mutex of the observer that is called back. -/

theorem marked_locked (limit : Nat) (reactor : SocketReactor) (n id : Nat) (mutex : Mutex) :
    marked limit ((observerMutex id).set mutex reactor) n = marked limit reactor n := by
  apply List.map_congr_left
  intro other _
  by_cases same : other = id <;> simp [observerMutex, putCell, same]

theorem Kept.locked {observer : Observer} (kept : reactor.Kept n id observer) (other : Nat)
    (mutex : Mutex) : ((observerMutex other).set mutex reactor).Kept n id observer := by
  have cell : (((observerMutex other).set mutex reactor).cells id).observer =
      (reactor.cells id).observer := by
    by_cases same : id = other <;> simp [observerMutex, putCell, same]
  rw [Kept, cell]
  exact kept

theorem Abreast.locked (abreast : Abreast first n held edits reactor) {next : Option Nat}
    (id : Nat) (mutex : Mutex) (idle : ((observerMutex id).set mutex reactor).Idle true next) :
    Abreast first n next edits ((observerMutex id).set mutex reactor) where
  idle := idle
  sound := abreast.sound.locked id mutex
  made := abreast.made
  grown := abreast.grown
  list := (marked_locked _ _ _ _ _).trans abreast.list
  copied other member := by
    obtain ⟨allocated, kept⟩ := abreast.copied other member
    exact ⟨allocated, kept.locked id mutex⟩

theorem Abreast.remains_iff (abreast : Abreast first n held edits reactor)
    (member : id ∈ (first.notifiers n).observers) :
    Remains (first.entries n) edits (id, (first.cells id).observer) ↔
      id ∈ (reactor.notifiers n).observers := by
  have tagged : (first.entries n).map (fun entry => (some entry.1, entry.2)) =
      marked first.cellCount first n := by
    rw [entries, List.map_map]
    apply List.map_congr_left
    intro other listed
    simp [(abreast.copied other listed).1]
  obtain ⟨allocated, kept⟩ := abreast.copied id member
  rw [Remains, tagged, ← abreast.list, marked, List.mem_map]
  constructor
  · rintro ⟨other, listed, same⟩
    obtain ⟨tag, _⟩ := Prod.mk.inj same
    split at tag
    · cases tag
      exact listed
    · contradiction
  · intro listed
    have same := (kept.resolve_right fun gone => gone.1 listed).2
    exact ⟨id, listed, by rw [if_pos allocated, same]⟩

namespace Posting

@[simp] theorem edits_append (front back : List PostEvent) :
    Posting.edits (front ++ back) = Posting.edits front ++ Posting.edits back :=
  List.filterMap_append

@[simp] theorem turns_append (front back : List PostEvent) :
    turns (front ++ back) = turns front ++ turns back := List.filterMap_append

@[simp] theorem invoked_append (front back : List PostEvent) :
    invoked (front ++ back) = invoked front ++ invoked back := List.filterMap_append

variable {posting : Posting}

theorem run_perform {edits : List (Edit Observer)}
    (abreast : Abreast first n held edits posting.reactor) (edit : Edit Observer) :
    (perform n edit).run posting = .ok () { posting with
      reactor := posting.reactor.edited n edit
      log := posting.log ++ [.edited edit] } := by
  have ran := run_edit abreast.idle n edit
  simp [perform, record, onReactor, Exec.run_on, reactorField, ran]

theorem run_edits (more : List (Edit Observer))
    (abreast : Abreast first n held (Posting.edits posting.log) posting.reactor) :
    ∃ last, (Exec.forEach more (perform n)).run posting = .ok () last ∧
      last.log = posting.log ++ more.map .edited ∧
      Abreast first n held (Posting.edits last.log) last.reactor := by
  induction more generalizing posting with
  | nil => exact ⟨posting, rfl, by simp, abreast⟩
  | cons edit rest ih =>
      let next : Posting := { posting with
        reactor := posting.reactor.edited n edit
        log := posting.log ++ [.edited edit] }
      have kept : Abreast first n held (Posting.edits next.log) next.reactor := by
        rw [edits_append]
        exact abreast.edited edit
      obtain ⟨last, ran, log, after⟩ := ih kept
      refine ⟨last, ?_, ?_, after⟩
      · rw [Exec.forEach, EStateM.run_bind, run_perform abreast edit]
        exact ran
      · rw [log, List.append_assoc]
        rfl

theorem turns_edited (more : List (Edit Observer)) : turns (more.map .edited) = [] := by
  simp [turns, List.filterMap_map]

theorem invoked_edited (more : List (Edit Observer)) : invoked (more.map .edited) = [] := by
  simp [invoked, List.filterMap_map]

theorem run_callBack (id : Nat) (observer : Observer)
    (abreast : Abreast first n held (Posting.edits posting.log) posting.reactor) :
    ∃ last events, (callBack n id observer).run posting = .ok () last ∧
      last.log = posting.log ++ events ∧ turns events = [] ∧ invoked events = [(id, observer)] ∧
      Abreast first n held (Posting.edits last.log) last.reactor := by
  let edits := posting.behaviour posting.invocations
  let called : Posting := { posting with
    log := posting.log ++ [.invoked id observer]
    invocations := posting.invocations + 1 }
  have kept : Abreast first n held (Posting.edits called.log) called.reactor := by
    rw [edits_append]
    simpa [Posting.edits] using abreast
  obtain ⟨last, ran, log, after⟩ := run_edits edits kept
  refine ⟨last, .invoked id observer :: edits.map .edited, ran, ?_, ?_, ?_, after⟩
  · rw [log, List.append_assoc]
    rfl
  · exact turns_edited edits
  · exact congrArg ((id, observer) :: ·) (invoked_edited edits)

def Due (first : SocketReactor) (n : Nat) (notification : Option SocketNotification)
    (edits : List (Edit Observer)) (entry : Nat × Observer) : Prop :=
  entry.2.accepts notification ∧ Remains (first.entries n) edits entry

instance (first : SocketReactor) (n : Nat) (notification : Option SocketNotification)
    (edits : List (Edit Observer)) : DecidablePred (Due first n notification edits) :=
  fun _ => inferInstanceAs (Decidable (_ ∧ _))

variable {notification : Option SocketNotification}

theorem invokes_iff (abreast : Abreast first n held (Posting.edits posting.log) posting.reactor)
    (member : id ∈ (first.notifiers n).observers)
    (constructed : (first.cells id).observer.object ≠ none) :
    ((posting.reactor.cells id).observer.object.isSome &&
        (posting.reactor.cells id).observer.accepts notification) = true ↔
      Due first n notification (Posting.edits posting.log) (id, (first.cells id).observer) := by
  rw [Due, abreast.remains_iff member, Bool.and_eq_true]
  rcases (abreast.copied id member).2 with ⟨listed, same⟩ | ⟨gone, off⟩
  · rw [same, Option.isSome_iff_ne_none]
    exact ⟨fun both => ⟨both.2, listed⟩, fun both => ⟨constructed, both.1⟩⟩
  · rw [off]
    exact iff_of_false (fun both => Bool.noConfusion both.1) fun both => gone both.2

theorem run_notify_held (abreast : Abreast first n held (Posting.edits posting.log) posting.reactor)
    (member : id ∈ (first.notifiers n).observers)
    (constructed : (first.cells id).observer.object ≠ none) :
    let observer := (posting.reactor.cells id).observer
    ∃ last events, (Exec.when (observer.object.isSome && observer.accepts notification)
        (callBack n id observer)).run posting = .ok () last ∧
      last.log = posting.log ++ events ∧ turns events = [] ∧
      invoked events = [(id, (first.cells id).observer)].filter
        (Due first n notification (Posting.edits posting.log)) ∧
      Abreast first n held (Posting.edits last.log) last.reactor := by
  intro observer
  have due : (observer.object.isSome && observer.accepts notification) = true ↔
      Due first n notification (Posting.edits posting.log) (id, (first.cells id).observer) :=
    invokes_iff abreast member constructed
  by_cases called : Due first n notification (Posting.edits posting.log)
      (id, (first.cells id).observer)
  · have same : observer = (first.cells id).observer :=
      ((abreast.copied id member).2.resolve_right fun gone =>
        gone.1 ((abreast.remains_iff member).mp called.2)).2
    obtain ⟨last, events, ran, log, turnless, once, after⟩ := run_callBack id observer abreast
    refine ⟨last, events, ?_, log, turnless, ?_, after⟩
    · rw [due.mpr called, Exec.run_when_true, ran]
    · rw [once, same, List.filter_singleton, decide_eq_true called]
      rfl
  · refine ⟨posting, [], ?_, (List.append_nil _).symm, rfl, ?_, abreast⟩
    · rw [Bool.eq_false_iff.mpr fun yes => called (due.mp yes), Exec.run_when_false]
    · rw [List.filter_singleton, decide_eq_false called]
      rfl

theorem run_notify (notification : Option SocketNotification)
    (abreast : Abreast first n none (Posting.edits posting.log) posting.reactor)
    (member : id ∈ (first.notifiers n).observers)
    (constructed : (first.cells id).observer.object ≠ none) :
    ∃ last events, (notify n notification id).run posting = .ok () last ∧
      last.log = posting.log ++ events ∧ turns events = [] ∧
      invoked events = [(id, (first.cells id).observer)].filter
        (Due first n notification (Posting.edits posting.log)) ∧
      Abreast first n none (Posting.edits last.log) last.reactor := by
  let entered := (observerMutex id).set ((observerMutex id).get posting).enter posting
  have allocated : id < posting.reactor.cellCount :=
    Nat.lt_of_lt_of_le (abreast.copied id member).1 abreast.grown
  have inside : Abreast first n (some id) (Posting.edits entered.log) entered.reactor :=
    abreast.locked id _ (abreast.idle.entered allocated)
  obtain ⟨inner, events, ran, log, turnless, once, after⟩ :=
    run_notify_held inside member constructed
  refine ⟨(observerMutex id).set ((observerMutex id).get inner).leave inner, events, ?_, log,
    turnless, once, after.locked id _ after.idle.left⟩
  rw [notify, run_scopedLock_of_lockable (observerMutex id) _ (abreast.idle.recursive_cell id),
    EStateM.run_bind, EStateM.run_get]
  exact congrArg (releasing (observerMutex id)) ran

/-! The walk over the copied list. -/

theorem takeWhile_turn {front : List PostEvent} (new : .turn id ∉ front)
    (back : List PostEvent) :
    (front ++ .turn id :: back).takeWhile (· != .turn id) = front := by
  rw [List.takeWhile_append_of_pos]
  · simp
  · intro event member
    rw [bne_iff_ne]
    rintro rfl
    exact new member

theorem turn_mem_iff {log : List PostEvent} : .turn id ∈ log ↔ id ∈ turns log := by
  rw [turns, List.mem_filterMap]
  constructor
  · intro member
    exact ⟨_, member, rfl⟩
  · rintro ⟨event, member, same⟩
    cases event with
    | turn other =>
        cases same
        exact member
    | invoked _ _ | edited _ => contradiction

/-- Along what is left of the copied list, each entry is called back once if it is due when
its turn comes. -/
theorem run_walk (notification : Option SocketNotification)
    (constructed : ∀ id ∈ (first.notifiers n).observers,
      (first.cells id).observer.object ≠ none) (rest : List Nat)
    (copied : ∀ id ∈ rest, id ∈ (first.notifiers n).observers) (nodup : rest.Nodup)
    (abreast : Abreast first n none (Posting.edits posting.log) posting.reactor)
    (new : ∀ id ∈ rest, id ∉ turns posting.log) :
    ∃ last events, (Exec.forEach rest fun id => do
        record (.turn id)
        notify n notification id).run posting = .ok () last ∧
      last.log = posting.log ++ events ∧ turns events = rest ∧
      invoked events = (rest.map fun id => (id, (first.cells id).observer)).filter
        (fun entry => Due first n notification (editsBefore last.log entry.1) entry) ∧
      Abreast first n none (Posting.edits last.log) last.reactor := by
  induction rest generalizing posting with
  | nil => exact ⟨posting, [], rfl, (List.append_nil _).symm, rfl, rfl, abreast⟩
  | cons id rest ih =>
      obtain ⟨later, nodup⟩ := List.nodup_cons.mp nodup
      rw [List.forall_mem_cons] at copied new
      let turned : Posting := { posting with log := posting.log ++ [.turn id] }
      have same : Posting.edits turned.log = Posting.edits posting.log := by
        rw [edits_append]
        exact List.append_nil _
      have begun : Abreast first n none (Posting.edits turned.log) turned.reactor := by
        rwa [same]
      obtain ⟨middle, events, ran, log, turnless, once, kept⟩ :=
        run_notify notification begun copied.1 (constructed id copied.1)
      have unturned : ∀ other ∈ rest, other ∉ turns middle.log := by
        intro other member again
        rw [log, turns_append, turnless, List.append_nil, turns_append] at again
        rcases List.mem_append.mp again with before | own
        · exact new.2 other member before
        · cases List.mem_singleton.mp own
          exact later member
      obtain ⟨last, more, ended, whole, order, called, after⟩ := ih copied.2 nodup kept unturned
      have split : last.log = posting.log ++ .turn id :: (events ++ more) := by
        rw [whole, log, List.append_assoc, List.append_assoc]
        rfl
      have before : editsBefore last.log id = Posting.edits turned.log := by
        rw [editsBefore, split, takeWhile_turn (new.1 ∘ turn_mem_iff.mp), same]
      refine ⟨last, .turn id :: (events ++ more), ?_, split, ?_, ?_, after⟩
      · rw [Exec.forEach, EStateM.run_bind, EStateM.run_bind]
        have recorded : (record (.turn id)).run posting = .ok () turned := rfl
        simp only [recorded, ran, ended]
      · calc turns (.turn id :: (events ++ more)) = id :: turns (events ++ more) := rfl
          _ = id :: rest := by rw [turns_append, turnless, order, List.nil_append]
      · have own : [(id, (first.cells id).observer)].filter
            (Due first n notification (Posting.edits turned.log)) =
            [(id, (first.cells id).observer)].filter
              (fun entry => Due first n notification (editsBefore last.log entry.1) entry) := by
          simp only [List.filter_singleton, before]
        calc invoked (.turn id :: (events ++ more)) = invoked events ++ invoked more :=
              invoked_append events more
          _ = _ := by
              rw [once, called, own, ← List.filter_append]
              rfl

theorem post_delivers_once (idle : reactor.Idle true none) (sound : reactor.Sound)
    (made : n < reactor.notifierCount)
    (constructed : ∀ observer ∈ reactor.observersOf n, observer.object ≠ none)
    (notification : Option SocketNotification) (behaviour : Nat → List (Edit Observer)) :
    ∃ last, (postNotification n notification).run (start reactor behaviour) = .ok () last ∧
      turns last.log = (reactor.notifiers n).observers ∧
      (reactor.notifiers n).observers.Nodup ∧
      invoked last.log = (reactor.entries n).filter (fun entry => entry.2.accepts notification ∧
        Remains (reactor.entries n) (editsBefore last.log entry.1) entry) ∧
      last.reactor.observersOf n =
        (Posting.edits last.log).foldl Edit.apply (reactor.observersOf n) := by
  have copied := NotificationCenter.run_observersToNotify n idle.unlocked
  have objects : ∀ id ∈ (reactor.notifiers n).observers,
      (reactor.cells id).observer.object ≠ none :=
    fun id member => constructed _ (List.mem_map_of_mem member)
  obtain ⟨last, events, ran, log, order, once, after⟩ :=
    @run_walk reactor n (start reactor behaviour) notification objects _
      (fun _ member => member) (sound.nodup n) (abreast_self idle sound made)
      (by simp [start, turns])
  have whole : last.log = events := log
  refine ⟨last, ?_, by rw [whole, order], sound.nodup n, by rw [whole, once, ← whole]; rfl, ?_⟩
  · have read : (onReactor (NotificationCenter.observersToNotify n)).run
        (start reactor behaviour) = .ok (reactor.notifiers n).observers (start reactor behaviour) :=
      Exec.run_on_ok copied
    rw [postNotification, EStateM.run_bind, read]
    exact ran
  · have list := congrArg (List.map Prod.snd) after.list
    rw [Edit.map_snd_foldl] at list
    simpa [marked, observersOf, Function.comp_def] using list

/-- Three entries, the first and the last of them equal; the first callback removes both of
the first two and adds one. -/
theorem post_delivers_once_to_equals :
    let socket : Observer := .onSocket 1 .readable 0
    let other : Observer := .onSocket 2 .readable 0
    let reactor : SocketReactor := (((SocketReactor.empty true (fun _ => true)
      Epoll.obliging).created 3).cloned 0 socket).cloned 0 other |>.cloned 0 socket
    let behaviour : Nat → List (Edit Observer)
      | 0 => [.remove socket, .remove other, .add other]
      | _ => []
    ∃ last, (postNotification 0 (some .readable)).run (start reactor behaviour) = .ok () last ∧
      invoked last.log = [(0, socket), (2, socket)] ∧
      last.reactor.observersOf 0 = [socket, other] := by
  intro socket other reactor behaviour
  have idle := (((idle_empty true (fun _ => true) Epoll.obliging).created 3).cloned 0
    socket).cloned 0 other |>.cloned 0 socket
  have sound := (((sound_empty true (fun _ => true) Epoll.obliging).created 3).cloned
    (n := 0) (by decide) socket).cloned (n := 0) (by decide) other |>.cloned (n := 0)
    (by decide) socket
  obtain ⟨last, ran, _⟩ := post_delivers_once (n := 0) idle sound (by decide)
    (by decide +kernel) (some .readable) behaviour
  have same := Exec.last_of_ok ran
  refine ⟨last, ran, ?_, ?_⟩
  · rw [← same]
    decide +kernel
  · rw [← same]
    decide +kernel

end Posting

end SocketReactor

end TestReactor
