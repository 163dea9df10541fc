import TestReactor.NotificationCenter
import TestReactor.Registry

namespace TestReactor

namespace NotificationCenter

/-! What a centre is for, as if each of its calls were done at once: a register of entries.
A callback belongs to an entry that is registered when it begins; an entry has one
callback at a time, and leaves the register between two of them. -/

structure Register where
  entries : List (Nat × Observer)
  made : Nat
  running : Nat → Bool

namespace Register

open Function (update)

def empty : Register := ⟨[], 0, fun _ => false⟩

variable (register : Register)

def find (observer : Observer) : Option Nat :=
  (register.entries.find? fun entry => observer.equals entry.2).map Prod.fst

def listens (id : Nat) (notification : Option SocketNotification) : Bool :=
  register.entries.any fun entry =>
    decide (entry.1 = id) && NotificationCenter.listens entry.2 notification

def step (register : Register) : Event → Option Register
  | .added id observer =>
      if id = register.made then
        some { register with
          entries := register.entries ++ [(id, observer)], made := register.made + 1 }
      else none
  | .removed observer found =>
      if register.find observer = found ∧ found.all fun id => !register.running id then
        some { register with
          entries := register.entries.eraseP fun entry => observer.equals entry.2 }
      else none
  | .answeredHas observer answer =>
      if (register.find observer).isSome = answer then some register else none
  | .answeredAny answer => if (!register.entries.isEmpty) = answer then some register else none
  | .counted count => if register.entries.length = count then some register else none
  | .copied ids => if register.entries.map Prod.fst = ids then some register else none
  | .called id notification =>
      if register.listens id notification ∧ !register.running id then
        some { register with running := update register.running id true }
      else none
  | .passed id notification => if register.listens id notification then none else some register
  | .ended id =>
      if register.running id then
        some { register with running := update register.running id false }
      else none

end Register

def register (centre : NotificationCenter) : Register where
  entries := centre.observers.map fun id => (id, centre.cells id)
  made := centre.allocated
  running id := centre.taken (.observer id)

def Recorded (centre : NotificationCenter) : Prop :=
  Runs.exec Register.step Register.empty centre.log = some centre.register

/-- An entry off the list has been disabled. -/
structure Listed (centre : NotificationCenter) : Prop where
  nodup : centre.observers.Nodup
  allocated : ∀ id ∈ centre.observers, id < centre.allocated
  retired : ∀ id < centre.allocated, id ∉ centre.observers → (centre.cells id).object = none

/-- What a call that is under way relies on. -/
def Fits (centre : NotificationCenter) : Frame → Prop
  | .disable observer id => centre.find observer = some id
  | .walk ids _ => ∀ id ∈ ids, id < centre.allocated
  | _ => True

structure Sound {θ : Type} (pool : Pool θ) : Prop where
  exclusive : locking.Exclusive pool
  recorded : Recorded pool.shared
  listed : Listed pool.shared
  fits : ∀ thread, ∀ frame ∈ pool.control thread, Fits pool.shared frame

section

variable {centre next : NotificationCenter} {event : Event}

/-! The register of a centre. -/

theorem register_find (centre : NotificationCenter) (observer : Observer) :
    centre.register.find observer = centre.find observer := by
  simp only [Register.find, register, find, List.find?_map, Option.map_map]
  exact Option.map_id'

theorem Listed.register_listens (listed : Listed centre) {id : Nat}
    (allocated : id < centre.allocated) (notification : Option SocketNotification) :
    centre.register.listens id notification = listens (centre.cells id) notification := by
  rw [Bool.eq_iff_iff]
  simp only [Register.listens, register, List.any_map, List.any_eq_true, Function.comp_apply,
    Bool.and_eq_true, decide_eq_true_eq]
  constructor
  · rintro ⟨_, -, rfl, hears⟩
    exact hears
  · intro hears
    refine ⟨id, Decidable.byContradiction fun absent => ?_, rfl, hears⟩
    simp [listens, listed.retired id allocated absent] at hears

theorem Listed.register_pushBack (listed : Listed centre) (observer : Observer) :
    (centre.pushBack observer).register = { centre.register with
      entries := centre.register.entries ++ [(centre.allocated, observer)]
      made := centre.allocated + 1 } := by
  have same : centre.observers.map (fun id =>
      (id, Function.update centre.cells centre.allocated observer id)) =
        centre.observers.map fun id => (id, centre.cells id) := by
    refine List.map_congr_left fun id member => ?_
    rw [Function.update_of_ne (Nat.ne_of_lt (listed.allocated id member))]
  simp [register, pushBack, same]

theorem Listed.register_takeOff (listed : Listed centre) {observer : Observer} {id : Nat}
    (found : centre.find observer = some id) :
    (centre.takeOff id).register = { centre.register with
      entries := centre.register.entries.eraseP fun entry => observer.equals entry.2 } := by
  have same : (centre.observers.erase id).map (fun other =>
      (other, Function.update centre.cells id (centre.cells id).disabled other)) =
        (centre.observers.erase id).map fun other => (other, centre.cells other) := by
    refine List.map_congr_left fun other member => ?_
    rw [Function.update_of_ne (listed.nodup.mem_erase_iff.mp member).1]
  have erased := @map_erase_of_find_meets _ _ _ (fun id => (id, centre.cells id))
    (fun entry => observer.equals entry.2) found
  simp [register, takeOff, same, erased]

theorem Recorded.follows (recorded : Recorded centre) (log : next.log = centre.log ++ [event])
    (stepped : centre.register.step event = some next.register) : Recorded next := by
  rw [Recorded, log, Runs.exec_append, recorded]
  exact (Runs.exec_cons _ _ _).trans (by rw [stepped]; rfl)

theorem Listed.pushBack (listed : Listed centre) (observer : Observer) :
    Listed (centre.pushBack observer) where
  nodup := by
    refine List.nodup_append.mpr ⟨listed.nodup, List.nodup_singleton _, ?_⟩
    rintro id member _ single rfl
    exact Nat.lt_irrefl _ (List.mem_singleton.mp single ▸ listed.allocated id member)
  allocated id member := by
    rcases List.mem_append.mp member with before | new
    · exact Nat.lt_succ_of_lt (listed.allocated id before)
    · exact List.mem_singleton.mp new ▸ Nat.lt_succ_self _
  retired id allocated absent := by
    have different : id ≠ centre.allocated := by
      rintro rfl
      exact absent (by simp [NotificationCenter.pushBack])
    have before : id < centre.allocated := by
      have : id < centre.allocated + 1 := allocated
      omega
    have kept := listed.retired id before fun member => absent (List.mem_append_left _ member)
    simpa [NotificationCenter.pushBack, different] using kept

theorem Listed.takeOff (listed : Listed centre) (id : Nat) : Listed (centre.takeOff id) where
  nodup := listed.nodup.erase id
  allocated other member := listed.allocated other (List.mem_of_mem_erase member)
  retired other allocated absent := by
    rcases eq_or_ne other id with rfl | different
    · simp [NotificationCenter.takeOff, Observer.disabled]
    · have kept := listed.retired other allocated fun member =>
        absent (listed.nodup.mem_erase_iff.mpr ⟨different, member⟩)
      simpa [NotificationCenter.takeOff, different] using kept

theorem Fits.edited {frame : Frame} (fits : Fits centre frame)
    (unlocked : .centre ∉ frame.locks) (grown : centre.allocated ≤ next.allocated) :
    Fits next frame := by
  cases frame with
  | enter request => trivial
  | disable observer id => exact absurd List.mem_cons_self unlocked
  | walk ids notification => exact fun id member => Nat.lt_of_lt_of_le (fits id member) grown
  | callback id => trivial

end

section

variable {θ : Type} {pool : Pool θ} {thread : θ}

structure Advanced (pool : Pool θ) (thread : θ) (next : NotificationCenter)
    (frames : List Frame) : Prop where
  recorded : Recorded next
  listed : Listed next
  own : ∀ frame ∈ frames, Fits next frame
  others : ∀ other, other ≠ thread → ∀ frame ∈ pool.control other, Fits next frame

theorem Sound.unlocked (sound : Sound pool) (free : pool.shared.taken .centre = false)
    (other : θ) {frame : Frame} (member : frame ∈ pool.control other) :
    .centre ∉ frame.locks := by
  intro has
  exact sound.exclusive.free free other (List.mem_flatMap.mpr ⟨frame, member, has⟩)

theorem Sound.alone (sound : Sound pool) {frame : Frame} {below : List Frame}
    (control : pool.control thread = frame :: below) (locks : .centre ∈ frame.locks) :
    (∀ other ∈ below, .centre ∉ other.locks) ∧
      ∀ another, another ≠ thread → ∀ other ∈ pool.control another, .centre ∉ other.locks := by
  have own : Lock.centre ∈ locking.has (pool.control thread) :=
    List.mem_flatMap.mpr ⟨frame, control ▸ List.mem_cons_self, locks⟩
  constructor
  · intro other member has
    have once := sound.exclusive.once thread
    rw [control] at once
    exact (List.nodup_append.mp once).2.2 _ locks _ (List.mem_flatMap.mpr ⟨other, member, has⟩) rfl
  · intro another different other member has
    exact different (sound.exclusive.sole own (List.mem_flatMap.mpr ⟨other, member, has⟩))

theorem Sound.answers (sound : Sound pool) {request : Request} {below : List Frame}
    (control : pool.control thread = .enter request :: below) {event : Event}
    (stepped : pool.shared.register.step event = some pool.shared.register) :
    Advanced pool thread (pool.shared.note event) below where
  recorded := sound.recorded.follows rfl stepped
  listed := ⟨sound.listed.nodup, sound.listed.allocated, sound.listed.retired⟩
  own frame member := sound.fits thread frame (control ▸ List.mem_cons_of_mem _ member)
  others other _ frame member := sound.fits other frame member

theorem observer_injective : Function.Injective Lock.observer := fun _ _ => Lock.observer.inj

theorem register_lock_observer (centre : NotificationCenter) (id : Nat) :
    (centre.lock (.observer id)).register = { centre.register with
      running := Function.update centre.register.running id true } :=
  congrArg (Register.mk _ _)
    (Function.update_comp_eq_of_injective centre.taken observer_injective id true)

theorem register_unlock_observer (centre : NotificationCenter) (id : Nat) :
    (centre.unlock (.observer id)).register = { centre.register with
      running := Function.update centre.register.running id false } :=
  congrArg (Register.mk _ _)
    (Function.update_comp_eq_of_injective centre.taken observer_injective id false)

theorem register_lock_centre (centre : NotificationCenter) :
    (centre.lock .centre).register = centre.register := by
  simp [register, lock]

theorem Sound.adds (sound : Sound pool) {observer : Observer} {below : List Frame}
    (control : pool.control thread = .enter (.addObserver observer) :: below)
    (free : pool.shared.taken .centre = false) :
    Advanced pool thread ((pool.shared.pushBack observer).note
      (.added pool.shared.allocated observer)) below where
  recorded := sound.recorded.follows rfl
    ((if_pos rfl).trans (congrArg some (sound.listed.register_pushBack observer).symm))
  listed :=
    have listed := sound.listed.pushBack observer
    ⟨listed.nodup, listed.allocated, listed.retired⟩
  own frame member := by
    have before : frame ∈ pool.control thread := control ▸ List.mem_cons_of_mem _ member
    exact (sound.fits thread frame before).edited (sound.unlocked free thread before)
      (Nat.le_succ _)
  others other _ frame member :=
    (sound.fits other frame member).edited (sound.unlocked free other member) (Nat.le_succ _)

theorem Sound.removes (sound : Sound pool) {observer : Observer} {below : List Frame} {id : Nat}
    (control : pool.control thread = .enter (.removeObserver observer) :: below)
    (found : pool.shared.find observer = some id) :
    Advanced pool thread (pool.shared.lock .centre) (.disable observer id :: below) where
  recorded := by
    rw [Recorded, register_lock_centre]
    exact sound.recorded
  listed := ⟨sound.listed.nodup, sound.listed.allocated, sound.listed.retired⟩
  own := List.forall_mem_cons.mpr ⟨found, fun frame member =>
    sound.fits thread frame (control ▸ List.mem_cons_of_mem _ member)⟩
  others other _ frame member := sound.fits other frame member

theorem Sound.serves (sound : Sound pool) {request : Request} {below : List Frame}
    (control : pool.control thread = .enter request :: below)
    (free : pool.shared.taken .centre = false) :
    Advanced pool thread (pool.shared.serve request).1
      ((pool.shared.serve request).2 ++ below) := by
  cases request with
  | addObserver observer => exact sound.adds control free
  | removeObserver observer =>
      cases found : pool.shared.find observer with
      | some id => simpa [serve, found] using sound.removes control found
      | none =>
        suffices Advanced pool thread (pool.shared.note (.removed observer none)) below by
          simpa [serve, found] using this
        refine sound.answers control ?_
        have none_equals : ∀ entry ∈ pool.shared.register.entries,
            ¬ observer.equals entry.2 := by
          simpa [register, find] using found
        rw [Register.step, if_pos ⟨(register_find _ _).trans found, rfl⟩,
          List.eraseP_of_forall_not none_equals]
  | hasObserver observer =>
      exact sound.answers control (if_pos (by rw [register_find]))
  | hasObservers => exact sound.answers control (if_pos (by simp [register]))
  | countObservers => exact sound.answers control (if_pos (by simp [register]))
  | postNotification notification =>
      have same : pool.shared.register.step (.copied pool.shared.observers) =
          some pool.shared.register := if_pos (by simp [register, Function.comp_def])
      have copied := sound.answers control same
      exact ⟨copied.recorded, copied.listed,
        List.forall_mem_cons.mpr ⟨sound.listed.allocated, copied.own⟩, copied.others⟩

theorem Sound.disables (sound : Sound pool) {observer : Observer} {id : Nat}
    {below : List Frame} (control : pool.control thread = .disable observer id :: below)
    (free : pool.shared.taken (.observer id) = false) :
    Advanced pool thread
      (((pool.shared.takeOff id).unlock .centre).note (.removed observer (some id))) below := by
  have found : pool.shared.find observer = some id :=
    sound.fits thread (.disable observer id) (control ▸ List.mem_cons_self)
  obtain ⟨own, others⟩ := sound.alone control List.mem_cons_self
  have listed := sound.listed.takeOff id
  refine ⟨sound.recorded.follows rfl ?_, ⟨listed.nodup, listed.allocated, listed.retired⟩,
    fun frame member => ?_, fun other different frame member => ?_⟩
  · have idle : (some id).all fun id => !pool.shared.register.running id := by
      simpa [register] using free
    rw [Register.step, if_pos ⟨(register_find _ _).trans found, idle⟩,
      ← sound.listed.register_takeOff found]
    simp [register, note, unlock, takeOff]
  · exact (sound.fits thread frame (control ▸ List.mem_cons_of_mem _ member)).edited
      (own frame member) (Nat.le_refl _)
  · exact (sound.fits other frame member).edited (others other different frame member)
      (Nat.le_refl _)

theorem Sound.notifies (sound : Sound pool) {id : Nat} {ids : List Nat}
    {notification : Option SocketNotification} {below : List Frame}
    (control : pool.control thread = .walk (id :: ids) notification :: below)
    (free : pool.shared.taken (.observer id) = false) :
    Advanced pool thread (pool.shared.notify id notification).1
      ((pool.shared.notify id notification).2 ++ .walk ids notification :: below) := by
  have fits : ∀ other ∈ id :: ids, other < pool.shared.allocated :=
    sound.fits thread (.walk (id :: ids) notification) (control ▸ List.mem_cons_self)
  have heard := sound.listed.register_listens (fits id List.mem_cons_self) notification
  have below : ∀ frame ∈ Frame.walk ids notification :: below, Fits pool.shared frame :=
    List.forall_mem_cons.mpr ⟨fun other member => fits other (List.mem_cons_of_mem _ member),
      fun frame member => sound.fits thread frame (control ▸ List.mem_cons_of_mem _ member)⟩
  unfold notify
  split
  case isTrue listening =>
    refine ⟨sound.recorded.follows rfl ?_,
      ⟨sound.listed.nodup, sound.listed.allocated, sound.listed.retired⟩,
      List.forall_mem_cons.mpr ⟨trivial, below⟩, fun other _ => sound.fits other⟩
    rw [Register.step, if_pos ⟨heard.trans listening, by simpa [register] using free⟩]
    exact congrArg some (register_lock_observer _ id).symm
  case isFalse silent =>
    refine ⟨sound.recorded.follows rfl ?_,
      ⟨sound.listed.nodup, sound.listed.allocated, sound.listed.retired⟩,
      below, fun other _ => sound.fits other⟩
    rw [Register.step, heard, if_neg silent]
    rfl

theorem Sound.ends (sound : Sound pool) {id : Nat} {below rest : List Frame}
    (control : pool.control thread = .callback id :: below)
    (left : rest = below ∨ rest = unwound below) :
    Advanced pool thread (pool.shared.leave id) rest where
  recorded := by
    have running : pool.shared.register.running id = true :=
      (sound.exclusive.taken (.observer id)).mpr ⟨thread, by simp [locking, control, Frame.locks]⟩
    refine sound.recorded.follows rfl ((if_pos running).trans ?_)
    exact congrArg some (register_unlock_observer _ id).symm
  listed := ⟨sound.listed.nodup, sound.listed.allocated, sound.listed.retired⟩
  own frame member := by
    have kept : frame ∈ below := by
      rcases left with rfl | rfl
      · exact member
      · exact mem_of_mem_unwound member
    exact sound.fits thread frame (control ▸ List.mem_cons_of_mem _ kept)
  others other _ frame member := sound.fits other frame member

theorem Sound.advanced (sound : Sound pool) {next : NotificationCenter} {frames : List Frame}
    (sections : Sections pool.shared (pool.control thread) next frames) :
    Advanced pool thread next frames := by
  generalize control : pool.control thread = before at sections
  cases sections with
  | calls request =>
      exact ⟨sound.recorded, sound.listed,
        List.forall_mem_cons.mpr ⟨trivial, control ▸ sound.fits thread⟩,
        fun other _ => sound.fits other⟩
  | ends id below left => exact sound.ends control left
  | serves request below free => exact sound.serves control free
  | disables observer id below free => exact sound.disables control free
  | finishes notification below =>
      exact ⟨sound.recorded, sound.listed,
        fun frame member => sound.fits thread frame (control ▸ List.mem_cons_of_mem _ member),
        fun other _ => sound.fits other⟩
  | notifies id ids notification below free => exact sound.notifies control free

theorem sound_start : Sound (start θ) where
  exclusive := ⟨fun lock => by simp [start, empty, locking], fun thread => List.nodup_nil,
    fun member => absurd member List.not_mem_nil⟩
  recorded := rfl
  listed := ⟨List.nodup_nil, fun _ member => absurd member List.not_mem_nil,
    fun _ allocated => absurd allocated (Nat.not_lt_zero _)⟩
  fits _ _ member := absurd member List.not_mem_nil

variable [DecidableEq θ]

theorem Sound.step (sound : Sound pool) {turn : θ × Choice} {next : Pool θ}
    (stepped : step pool turn = some next) : Sound next := by
  have exclusive := sound.exclusive.step disciplined stepped
  obtain ⟨shared, control, acted, rfl⟩ := Threads.step_eq_some_iff.mp stepped
  have advanced := sound.advanced (sections_of_act acted)
  refine ⟨exclusive, advanced.recorded, advanced.listed, fun other frame member => ?_⟩
  rcases eq_or_ne other turn.1 with rfl | different
  · exact advanced.own frame (by simpa using member)
  · exact advanced.others other different frame (by simpa [different] using member)

theorem sound_of_reached {turns : List (θ × Choice)} {pool : Pool θ}
    (reached : Runs.exec NotificationCenter.step (start θ) turns = some pool) : Sound pool :=
  Runs.exec_keeps Sound (fun _ _ _ sound stepped => sound.step stepped) sound_start reached

end

/-- One of two threads adds an observer and posts: its callback begins. -/
def posting (observer : Observer) : List (Bool × Choice) :=
  [(false, .call (.addObserver observer)), (false, .returns),
    (false, .call (.postNotification (some .readable))), (false, .returns), (false, .returns)]

end NotificationCenter

end TestReactor
