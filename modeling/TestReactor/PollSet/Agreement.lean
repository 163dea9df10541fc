import TestReactor.PollSet.Spec
import TestReactor.Runs

namespace TestReactor

namespace PollSet

/-! The map of a poll set against the interest list of its epoll instance. -/

abbrev Objects := Nat → Option Int

inductive Call where
  | add (socket : SocketRef) (mode : Mode)
  | update (socket : SocketRef) (mode : Mode)
  | remove (socket : SocketRef)
  | clear (failure : Option Nat)

def Call.run : Call → Method Unit
  | .add socket mode => PollSet.add socket mode
  | .update socket mode => PollSet.update socket mode
  | .remove socket => PollSet.remove socket
  | .clear failure => PollSet.clear failure

def Call.within (objects : Objects) : Call → Bool
  | .add socket _ => objects socket.address = some socket.sockfd
  | .update socket _ => objects socket.address = some socket.sockfd
  | .remove socket => objects socket.address = some socket.sockfd
  | .clear _ => true

def step (objects : Objects) (pollSet : PollSet) (call : Call) : Option PollSet :=
  if call.within objects then (call.run.returns pollSet).map Prod.snd else none

/-- What `epoll_wait` may report at a time: descriptors that are listed, none of them
twice, with the pointers that they are listed with. -/
structure Reports (epoll : Epoll Nat) (reports : List (Int × Epoll.Event Nat)) : Prop where
  few : reports.length ≤ EVENTS
  once : (reports.map Prod.fst).Nodup
  listed : ∀ report ∈ reports, ∃ entry,
    epoll.interest report.1 = some entry ∧ report.2.data = entry.data

def modeOf (events : BitVec 32) : Mode :=
  (if events &&& Epoll.EPOLLIN ≠ 0 then POLL_READ else 0) |||
  (if events &&& Epoll.EPOLLOUT ≠ 0 then POLL_WRITE else 0) |||
  (if events &&& Epoll.EPOLLERR ≠ 0 then POLL_ERROR else 0)

def shown (events : BitVec 32) : Option Mode :=
  if modeOf events = 0 then none else some (modeOf events)

/-- The map says of every object, and of all, what the interest list says; and `poll`
gives out what epoll reports. -/
structure Agrees (objects : Objects) (pollSet : PollSet) : Prop where
  has : ∀ socket : SocketRef, objects socket.address = some socket.sockfd →
    (has socket).run pollSet =
      .ok (pollSet.epoll.interest socket.sockfd).isSome pollSet
  empty : ∃ empty, isEmpty.run pollSet = .ok empty pollSet ∧
    (empty = true ↔ ∀ fd, pollSet.epoll.interest fd = none)
  polls : ∀ reports, Reports pollSet.epoll reports → ∀ answers,
    Errno.retried answers = some (.ok (reports.map Prod.snd)) →
    ∃ result, (poll answers).run pollSet = .ok result pollSet ∧
      ∀ report ∈ reports, result[report.1]? = shown report.2.events

/-- What epoll takes in is the only object with its descriptor. -/
def Sole (objects : Objects) (pollSet : PollSet) : Call → Prop
  | .add socket _ => pollSet.epoll.refused .add socket.sockfd = none →
      ∀ address, objects address = some socket.sockfd → address = socket.address
  | .update _ _ => True
  | .remove _ => True
  | .clear _ => True

/-! The result of `poll`. -/

section Result

variable {pollSet : PollSet} {result : SocketModeMap}

theorem getElem?_foldl_modes (fd other : Int) (modes : List Mode) (result : SocketModeMap) :
    (modes.foldl
      (fun result mode => result.insert fd ((result[fd]?).getD 0 ||| mode)) result)[other]? =
      if fd = other ∧ modes ≠ [] then
        some (modes.foldl (· ||| ·) ((result[fd]?).getD 0))
      else result[other]? := by
  induction modes generalizing result with
  | nil => simp
  | cons mode rest ih =>
      rw [List.foldl_cons, ih]
      by_cases same : fd = other
      · subst same
        by_cases last : rest = []
        · simp [last]
        · simp [last]
      · simp [same, Std.TreeMap.getElem?_insert]

theorem foldl_modes (events : BitVec 32) :
    (modes events).foldl (· ||| ·) 0 = modeOf events := by
  unfold modes modeOf
  split <;> split <;> split <;> rfl

theorem modes_eq_nil_iff (events : BitVec 32) : modes events = [] ↔ modeOf events = 0 := by
  unfold modes modeOf
  split <;> split <;> split <;> decide

theorem getElem?_report {event : Epoll.Event Nat} {fd : Int}
    (found : pollSet.socketMap[event.data]? = some fd) (absent : result[fd]? = none)
    (other : Int) :
    (pollSet.report result event)[other]? =
      if fd = other then shown event.events else result[other]? := by
  rw [report, found]
  simp only
  rw [getElem?_foldl_modes, absent, Option.getD_none, foldl_modes, shown]
  by_cases same : fd = other
  · subst same
    by_cases silent : modeOf event.events = 0
    · simp [silent, (modes_eq_nil_iff _).mpr silent, absent]
    · rw [if_pos ⟨rfl, mt (modes_eq_nil_iff _).mp silent⟩, if_pos rfl, if_neg silent]
  · simp [same]

theorem getElem?_reports {reports : List (Int × Epoll.Event Nat)}
    (once : (reports.map Prod.fst).Nodup)
    (found : ∀ report ∈ reports, pollSet.socketMap[report.2.data]? = some report.1)
    (absent : ∀ report ∈ reports, result[report.1]? = none) :
    let last := (reports.map Prod.snd).foldl pollSet.report result
    (∀ report ∈ reports, last[report.1]? = shown report.2.events) ∧
      ∀ fd, fd ∉ reports.map Prod.fst → last[fd]? = result[fd]? := by
  induction reports generalizing result with
  | nil => simp
  | cons first rest ih =>
      obtain ⟨alone, once⟩ := List.nodup_cons.mp once
      have own := getElem?_report (found first (by simp)) (absent first (by simp))
      have later : ∀ report ∈ rest, (pollSet.report result first.2)[report.1]? = none := by
        intro report member
        rw [own, if_neg]
        · exact absent report (List.mem_cons_of_mem _ member)
        · intro same
          exact alone (List.mem_map.mpr ⟨report, member, same.symm⟩)
      obtain ⟨inside, outside⟩ := ih once
        (fun report member => found report (List.mem_cons_of_mem _ member)) later
      refine ⟨?_, ?_⟩
      · rintro report member
        rcases List.mem_cons.mp member with rfl | member
        · exact (outside _ alone).trans (by rw [own, if_pos rfl])
        · exact inside report member
      · intro fd unreported
        simp only [List.map_cons, List.mem_cons, not_or] at unreported
        refine (outside fd unreported.2).trans ?_
        rw [own, if_neg (Ne.symm unreported.1)]

end Result

/-! The invariant of the runs in which all is well. -/

structure Tight (objects : Objects) (pollSet : PollSet) : Prop where
  free : pollSet.mutex.Lockable
  lawful : Epoll.Lawful pollSet.epoll.refusal
  mapped : ∀ (address : Nat) fd, pollSet.socketMap[address]? = some fd →
    objects address = some fd ∧ (pollSet.epoll.interest fd).isSome
  held : ∀ fd entry, pollSet.epoll.interest fd = some entry →
    pollSet.socketMap[entry.data]? = some fd
  sole : ∀ fd entry, pollSet.epoll.interest fd = some entry →
    ∀ address, objects address = some fd → address = entry.data

section Tight

variable {objects : Objects} {pollSet next : PollSet} {socket : SocketRef}

theorem Tight.mem_iff (tight : Tight objects pollSet) (socket : SocketRef)
    (object : objects socket.address = some socket.sockfd) :
    socket.address ∈ pollSet.socketMap ↔ (pollSet.epoll.interest socket.sockfd).isSome := by
  rw [Std.TreeMap.mem_iff_isSome_getElem?, Option.isSome_iff_exists, Option.isSome_iff_exists]
  constructor
  · rintro ⟨fd, found⟩
    obtain ⟨same, listed⟩ := tight.mapped _ fd found
    cases object.symm.trans same
    exact Option.isSome_iff_exists.mp listed
  · rintro ⟨entry, listed⟩
    rw [tight.sole _ entry listed _ object]
    exact ⟨_, tight.held _ entry listed⟩

theorem Tight.isEmpty_iff (tight : Tight objects pollSet) :
    pollSet.socketMap.isEmpty = true ↔ ∀ fd, pollSet.epoll.interest fd = none := by
  rw [Std.TreeMap.isEmpty_iff_forall_not_mem]
  constructor
  · intro empty fd
    cases listed : pollSet.epoll.interest fd with
    | none => rfl
    | some entry =>
        refine absurd ?_ (empty entry.data)
        rw [Std.TreeMap.mem_iff_isSome_getElem?, tight.held fd entry listed]
        rfl
  · intro none address member
    obtain ⟨fd, found⟩ :=
      Option.isSome_iff_exists.mp (Std.TreeMap.mem_iff_isSome_getElem?.mp member)
    have listed := (tight.mapped address fd found).2
    rw [none fd] at listed
    contradiction

theorem Tight.agrees (tight : Tight objects pollSet) : Agrees objects pollSet where
  has socket object := by
    rw [run_has tight.free]
    congr 1
    rw [Bool.eq_iff_iff, ← tight.mem_iff socket object]
    rfl
  empty := ⟨_, run_isEmpty tight.free, tight.isEmpty_iff⟩
  polls := by
    intro reports admitted answers settled
    cases empty : pollSet.socketMap.isEmpty with
    | true =>
        have none := tight.isEmpty_iff.mp empty
        refine ⟨∅, ?_, ?_⟩
        · simp only [poll, EStateM.run_bind,
            show (locked do return (← get).socketMap.isEmpty).run pollSet = _ from
              run_isEmpty tight.free, empty]
          rfl
        · intro report member
          obtain ⟨entry, listed, _⟩ := admitted.listed report member
          rw [none] at listed
          contradiction
    | false =>
        refine ⟨_, run_poll_ok tight.free settled empty, ?_⟩
        rw [List.take_of_length_le (by rw [List.length_map]; exact admitted.few)]
        apply (getElem?_reports admitted.once ?_ ?_).1
        · intro report member
          obtain ⟨entry, listed, same⟩ := admitted.listed report member
          rw [same]
          exact tight.held _ entry listed
        · intro report member
          exact Std.TreeMap.getElem?_emptyc

end Tight

/-! One call. -/

def after (pollSet : PollSet) : Call → PollSet
  | .add socket mode =>
      match pollSet.registered socket mode with
      | (none, next) => next.remembered socket
      | (some _, next) => next
  | .update socket mode =>
      pollSet.controlled .mod socket.sockfd ⟨events mode, socket.address⟩
  | .remove socket =>
      let asked := pollSet.controlled .del socket.sockfd ⟨0, 0⟩
      match pollSet.epoll.refused .del socket.sockfd with
      | none => asked.forgotten socket
      | some _ => asked
  | .clear _ => pollSet.cleared

section Step

variable {objects : Objects} {pollSet next : PollSet} {socket : SocketRef} {mode : Mode}

theorem returns_of_checked {body : Method Unit} (err : Option Nat)
    (ran : body.run pollSet = checked err next) :
    (body.returns pollSet).map Prod.snd = some next := by
  cases err <;> simp [Exec.returns, ran, checked]

theorem step_eq (free : pollSet.mutex.Lockable) (call : Call) :
    step objects pollSet call =
      if call.within objects then some (pollSet.after call) else none := by
  unfold step
  congr 1
  cases call with
  | add socket mode =>
      have ran := run_add free socket mode
      simp only [after]
      cases registered : pollSet.registered socket mode with
      | mk err next =>
          rw [registered] at ran
          cases err with
          | none => exact returns_of_checked none ran
          | some errno => exact returns_of_checked (some errno) ran
  | update socket mode => exact returns_of_checked _ (run_update socket mode)
  | remove socket =>
      simp only [after]
      cases refused : pollSet.epoll.refused .del socket.sockfd with
      | none => exact returns_of_checked none (run_remove_ok free refused)
      | some errno => exact returns_of_checked (some errno) (run_remove_throw free refused)
  | clear failure => exact returns_of_checked failure (run_clear free failure)

theorem after_of_step (free : pollSet.mutex.Lockable) {call : Call}
    (stepped : step objects pollSet call = some next) :
    call.within objects = true ∧ next = pollSet.after call := by
  rw [step_eq free] at stepped
  split at stepped
  case isTrue within => exact ⟨within, (Option.some.inj stepped).symm⟩
  case isFalse => contradiction

theorem mutex_after (pollSet : PollSet) (call : Call) :
    (pollSet.after call).mutex = pollSet.mutex := by
  cases call with
  | add socket mode =>
      have same := mutex_registered pollSet socket mode
      simp only [after]
      split <;> rename_i registered <;> rw [registered] at same
      · rw [mutex_remembered]
        exact same
      · exact same
  | remove socket =>
      simp only [after]
      split <;> rfl
  | update socket mode | clear failure => rfl

theorem Tight.refused (tight : Tight objects pollSet) {op : CtlOp} {fd : Int} {errno : Nat}
    (refused : pollSet.epoll.refused op fd = some errno) (event : Epoll.Event Nat) :
    Tight objects (pollSet.controlled op fd event) := by
  have same : (pollSet.controlled op fd event).epoll.interest = pollSet.epoll.interest :=
    Epoll.ctl_of_refused refused
  refine ⟨tight.free, ?_, ?_, ?_, ?_⟩
  · rw [controlled, Epoll.refusal_ctl]
    exact tight.lawful
  · rw [same]
    exact tight.mapped
  · rw [same]
    exact tight.held
  · rw [same]
    exact tight.sole

theorem Tight.modified (tight : Tight objects pollSet)
    (object : objects socket.address = some socket.sockfd)
    (accepted : pollSet.epoll.refused .mod socket.sockfd = none) (events : BitVec 32) :
    Tight objects (pollSet.controlled .mod socket.sockfd ⟨events, socket.address⟩) ∧
      socket.address ∈ pollSet.socketMap := by
  have listed := tight.lawful.listed (by decide) accepted
  have mapped := (tight.mem_iff socket object).mpr listed
  obtain ⟨old, listed⟩ := Option.isSome_iff_exists.mp listed
  have own := tight.sole _ old listed _ object
  have held : ∀ fd, (pollSet.controlled .mod socket.sockfd
      ⟨events, socket.address⟩).epoll.interest fd =
        if fd = socket.sockfd then some ⟨events, socket.address⟩
        else pollSet.epoll.interest fd := Epoll.interest_ctl accepted
  refine ⟨⟨tight.free, ?_, ?_, ?_, ?_⟩, mapped⟩
  · rw [controlled, Epoll.refusal_ctl]
    exact tight.lawful
  · intro address fd found
    obtain ⟨stands, still⟩ := tight.mapped address fd found
    refine ⟨stands, ?_⟩
    rw [held]
    split
    · rfl
    · exact still
  · intro fd entry found
    rw [held] at found
    split at found
    case isTrue same =>
      cases found
      rw [same]
      show pollSet.socketMap[socket.address]? = _
      rw [own]
      exact tight.held _ old listed
    case isFalse => exact tight.held fd entry found
  · intro fd entry found address stands
    rw [held] at found
    split at found
    case isTrue same =>
      cases found
      rw [same] at stands
      exact (tight.sole _ old listed address stands).trans own.symm
    case isFalse => exact tight.sole fd entry found address stands

theorem Tight.unlisted (tight : Tight objects pollSet) {fd : Int}
    (accepted : pollSet.epoll.refused .add fd = none) :
    ¬ (pollSet.epoll.interest fd).isSome = true := by
  intro listed
  rw [Epoll.refused_add, listed] at accepted
  exact tight.lawful.add _ accepted

theorem Tight.entered (tight : Tight objects pollSet)
    (object : objects socket.address = some socket.sockfd)
    (accepted : pollSet.epoll.refused .add socket.sockfd = none)
    (sole : ∀ address, objects address = some socket.sockfd → address = socket.address)
    (events : BitVec 32) :
    Tight objects
      ((pollSet.controlled .add socket.sockfd ⟨events, socket.address⟩).remembered socket) := by
  have unmapped : socket.address ∉ pollSet.socketMap :=
    mt (tight.mem_iff socket object).mp (tight.unlisted accepted)
  have held : ∀ fd, (pollSet.controlled .add socket.sockfd
      ⟨events, socket.address⟩).epoll.interest fd =
        if fd = socket.sockfd then some ⟨events, socket.address⟩
        else pollSet.epoll.interest fd := Epoll.interest_ctl accepted
  have found : ∀ address : Nat, (pollSet.socketMap.insert socket.address socket.sockfd)[address]? =
      if socket.address = address then some socket.sockfd else pollSet.socketMap[address]? := by
    intro address
    rw [Std.TreeMap.getElem?_insert]
    simp
  have form : (pollSet.controlled .add socket.sockfd ⟨events, socket.address⟩).remembered socket =
      { pollSet.controlled .add socket.sockfd ⟨events, socket.address⟩ with
        socketMap := pollSet.socketMap.insert socket.address socket.sockfd } := if_neg unmapped
  rw [form]
  refine ⟨tight.free, ?_, ?_, ?_, ?_⟩
  · show Epoll.Lawful (pollSet.epoll.ctl _ _ _).refusal
    rw [Epoll.refusal_ctl]
    exact tight.lawful
  · intro address fd mapped
    simp only [found, held] at mapped ⊢
    split at mapped
    case isTrue same =>
      cases mapped
      rw [← same, if_pos rfl]
      exact ⟨object, rfl⟩
    case isFalse =>
      obtain ⟨stands, still⟩ := tight.mapped address fd mapped
      refine ⟨stands, ?_⟩
      split
      · rfl
      · exact still
  · intro fd entry listed
    simp only [found, held] at listed ⊢
    split at listed
    case isTrue same =>
      cases listed
      rw [if_pos rfl, same]
    case isFalse =>
      have mapped := tight.held fd entry listed
      rw [if_neg, mapped]
      intro same
      rw [← same] at mapped
      exact unmapped (Std.TreeMap.mem_iff_isSome_getElem?.mpr (by rw [mapped]; rfl))
  · intro fd entry listed address stands
    simp only [held] at listed
    split at listed
    case isTrue same =>
      cases listed
      rw [same] at stands
      exact sole address stands
    case isFalse => exact tight.sole fd entry listed address stands

theorem Tight.dropped (tight : Tight objects pollSet)
    (object : objects socket.address = some socket.sockfd)
    (accepted : pollSet.epoll.refused .del socket.sockfd = none) :
    Tight objects ((pollSet.controlled .del socket.sockfd ⟨0, 0⟩).forgotten socket) := by
  have listed := tight.lawful.listed (by decide) accepted
  obtain ⟨old, listed⟩ := Option.isSome_iff_exists.mp listed
  have own := tight.sole _ old listed
  let next := (pollSet.controlled .del socket.sockfd ⟨0, 0⟩).forgotten socket
  have copy : pollSet.socketMap[socket.address]? = some socket.sockfd := by
    rw [own _ object]
    exact tight.held _ old listed
  have held : ∀ fd, next.epoll.interest fd =
      if fd = socket.sockfd then none else pollSet.epoll.interest fd := by
    intro fd
    have gone : (pollSet.epoll.ctl .del socket.sockfd ⟨0, 0⟩).interest fd =
        if fd = socket.sockfd then none else pollSet.epoll.interest fd :=
      Epoll.interest_ctl accepted fd
    simp only [next, forgotten, controlled, copy, Option.elim_some, Epoll.interest_close, gone]
    by_cases same : fd = socket.sockfd <;> simp [same]
  have found : ∀ address : Nat, next.socketMap[address]? =
      if socket.address = address then none else pollSet.socketMap[address]? := by
    intro address
    show (pollSet.socketMap.erase socket.address)[address]? = _
    rw [Std.TreeMap.getElem?_erase]
    simp
  refine ⟨tight.free, ?_, ?_, ?_, ?_⟩
  · rw [refusal_forgotten, controlled, Epoll.refusal_ctl]
    exact tight.lawful
  · intro address fd mapped
    rw [found] at mapped
    rw [held]
    split at mapped
    case isTrue => contradiction
    case isFalse different =>
      obtain ⟨stands, still⟩ := tight.mapped address fd mapped
      refine ⟨stands, ?_⟩
      rw [if_neg]
      · exact still
      · rintro rfl
        exact different ((own _ object).trans (own _ stands).symm)
  · intro fd entry listed
    rw [held] at listed
    rw [found]
    split at listed
    case isTrue => contradiction
    case isFalse different =>
      have mapped := tight.held fd entry listed
      rw [if_neg, mapped]
      intro same
      rw [← same] at mapped
      have stands := (tight.mapped _ fd mapped).1
      exact different (Option.some.inj (stands.symm.trans object))
  · intro fd entry listed address stands
    rw [held] at listed
    split at listed
    case isTrue => contradiction
    case isFalse => exact tight.sole fd entry listed address stands

theorem Tight.cleared (tight : Tight objects pollSet) : Tight objects pollSet.cleared where
  free := tight.free
  lawful := by
    rw [refusal_cleared]
    exact tight.lawful
  mapped := by
    intro address fd mapped
    simp [PollSet.cleared] at mapped
  held := by
    intro fd entry listed
    simp [PollSet.cleared, Epoll.recreated] at listed
  sole := by
    intro fd entry listed
    simp [PollSet.cleared, Epoll.recreated] at listed

theorem Tight.added (tight : Tight objects pollSet)
    (object : objects socket.address = some socket.sockfd)
    (sole : Sole objects pollSet (.add socket mode)) :
    Tight objects (pollSet.after (.add socket mode)) := by
  simp only [after, registered]
  cases refused : pollSet.epoll.refused .add socket.sockfd with
  | none => exact tight.entered object refused (sole refused) _
  | some errno =>
      have asked := tight.refused refused ⟨events mode, socket.address⟩
      by_cases listed : errno = Errno.EEXIST
      · simp only [if_pos listed]
        cases again : (pollSet.controlled .add socket.sockfd
            ⟨events mode, socket.address⟩).epoll.refused .mod socket.sockfd with
        | none =>
            obtain ⟨kept, mapped⟩ := asked.modified object again (events mode)
            let last := (pollSet.controlled .add socket.sockfd
              ⟨events mode, socket.address⟩).controlled .mod socket.sockfd
                ⟨events mode, socket.address⟩
            have same : last.remembered socket = last := remembered_of_mem mapped
            show Tight objects (last.remembered socket)
            rw [same]
            exact kept
        | some errno => exact asked.refused again _
      · simp only [if_neg listed]
        exact asked

theorem Tight.after (tight : Tight objects pollSet) {call : Call}
    (within : call.within objects = true) (sole : Sole objects pollSet call) :
    Tight objects (pollSet.after call) := by
  cases call with
  | add socket mode => exact tight.added (of_decide_eq_true within) sole
  | update socket mode =>
      have object := of_decide_eq_true within
      cases refused : pollSet.epoll.refused .mod socket.sockfd with
      | none => exact (tight.modified object refused _).1
      | some errno => exact tight.refused refused _
  | remove socket =>
      have object := of_decide_eq_true within
      simp only [PollSet.after]
      cases refused : pollSet.epoll.refused .del socket.sockfd with
      | none => exact tight.dropped object refused
      | some errno => exact tight.refused refused _
  | clear failure => exact tight.cleared

theorem Tight.sole_of_agrees (tight : Tight objects pollSet) {call : Call}
    (within : call.within objects = true) (agrees : Agrees objects (pollSet.after call)) :
    Sole objects pollSet call := by
  cases call with
  | update socket mode => trivial
  | remove socket => trivial
  | clear failure => trivial
  | add socket mode =>
      intro accepted address stands
      by_contra different
      have entered : pollSet.after (.add socket mode) = (pollSet.controlled .add socket.sockfd
          ⟨events mode, socket.address⟩).remembered socket := by
        simp only [PollSet.after, registered, accepted]
      rw [entered] at agrees
      have held : ((pollSet.controlled .add socket.sockfd
          ⟨events mode, socket.address⟩).remembered socket).epoll.interest socket.sockfd =
            some ⟨events mode, socket.address⟩ := by
        rw [epoll_remembered, controlled, Epoll.interest_ctl accepted, if_pos rfl]
        rfl
      have has := agrees.has ⟨address, socket.sockfd⟩ stands
      have free : ((pollSet.controlled .add socket.sockfd
          ⟨events mode, socket.address⟩).remembered socket).mutex.Lockable := by
        rw [mutex_remembered]
        exact tight.free
      rw [run_has free, held] at has
      have member := mem_remembered.mp (Std.TreeMap.contains_iff_mem.mp
        (EStateM.Result.ok.inj has).1)
      rcases member with same | old
      · exact different same
      · exact tight.unlisted accepted ((tight.mem_iff ⟨address, socket.sockfd⟩ stands).mp old)

end Step

theorem tight_empty (objects : Objects) {refusal : Nat → CtlOp → Bool → Option Nat}
    (lawful : Epoll.Lawful refusal) (recursive : Bool) :
    Tight objects (PollSet.empty recursive refusal) where
  free := .inr rfl
  lawful := lawful
  mapped := by
    intro address fd mapped
    simp [PollSet.empty] at mapped
  held := by
    intro fd entry listed
    simp [PollSet.empty, Epoll.empty] at listed
  sole := by
    intro fd entry listed
    simp [PollSet.empty, Epoll.empty] at listed

/-- The map and the interest list agree throughout exactly the runs in which epoll takes
in no socket whose descriptor another object has as well; and no call hangs. -/
theorem agrees_iff_sole (objects : Objects) {refusal : Nat → CtlOp → Bool → Option Nat}
    (lawful : Epoll.Lawful refusal) (recursive : Bool) (calls : List Call) :
    Agrees objects (PollSet.empty recursive refusal) ∧
      (Runs.Always (step objects) (Agrees objects) (PollSet.empty recursive refusal) calls ↔
        Runs.Each (step objects) (Sole objects) (PollSet.empty recursive refusal) calls) ∧
      ∀ pollSet, Runs.exec (step objects) (PollSet.empty recursive refusal) calls = some pollSet →
        ∀ call, call.within objects = true → ∃ next, step objects pollSet call = some next := by
  have start := tight_empty objects lawful recursive
  refine ⟨start.agrees, ?_, ?_⟩
  · refine Runs.always_iff_each (Tight objects) ?_ (fun _ tight => tight.agrees) ?_ start
    · intro pollSet call next tight stepped sole
      obtain ⟨within, rfl⟩ := after_of_step tight.free stepped
      exact tight.after within sole
    · intro pollSet call next tight stepped agrees
      obtain ⟨within, rfl⟩ := after_of_step tight.free stepped
      exact tight.sole_of_agrees within agrees
  · intro pollSet reached call within
    have free : pollSet.mutex.Lockable := by
      refine Runs.exec_keeps (fun pollSet => pollSet.mutex.Lockable) ?_ start.free reached
      intro before call next free stepped
      obtain ⟨_, rfl⟩ := after_of_step free stepped
      rw [mutex_after]
      exact free
    exact ⟨_, by rw [step_eq free, if_pos within]⟩

theorem agrees_iff_sole_one_object :
    let objects : Objects := fun address => if address = 100 then some 3 else none
    let calls := [Call.add ⟨100, 3⟩ POLL_READ, .remove ⟨100, 3⟩]
    Agrees objects (PollSet.empty false Epoll.strict) ∧
      (Runs.Always (step objects) (Agrees objects) (PollSet.empty false Epoll.strict) calls ↔
        Runs.Each (step objects) (Sole objects) (PollSet.empty false Epoll.strict) calls) ∧
      ∀ pollSet, Runs.exec (step objects) (PollSet.empty false Epoll.strict) calls = some pollSet →
        ∀ call, call.within objects = true → ∃ next, step objects pollSet call = some next :=
  agrees_iff_sole _ Epoll.lawful_strict false _

/-- Two objects with one descriptor are put in, and one of them is taken out: the other
stays in the map of an instance that holds nothing. -/
theorem shared_descriptor_is_forgotten :
    let objects : Objects := fun address =>
      if address = 100 then some 3 else if address = 200 then some 3 else none
    ∃ pollSet, Runs.exec (step objects) (PollSet.empty false Epoll.strict)
        [.add ⟨100, 3⟩ POLL_READ, .add ⟨200, 3⟩ POLL_READ, .remove ⟨100, 3⟩] = some pollSet ∧
      (∀ fd, pollSet.epoll.interest fd = none) ∧
      (has ⟨200, 3⟩).run pollSet = .ok true pollSet ∧
      isEmpty.run pollSet = .ok false pollSet := by
  refine ⟨_, rfl, ?_, rfl, rfl⟩
  intro fd
  by_cases own : fd = 3
  · subst own
    rfl
  · show (if fd = 3 then _ else if fd = 3 then _ else if fd = 3 then _ else
      if fd = 3 then _ else none) = none
    rw [if_neg own, if_neg own, if_neg own, if_neg own]

end PollSet

end TestReactor
