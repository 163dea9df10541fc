import TestReactor.Locks
import TestReactor.Observer

namespace TestReactor

/-! `NotificationCenter`, used by any number of threads.  Their calls are cut where they
wait for a mutex; what the threads do of their own accord, also inside a callback, is
not fixed. -/

namespace NotificationCenter

/-- The mutex of the centre, and the one of each entry. -/
inductive Lock where
  | centre
  | observer (id : Nat)
  deriving DecidableEq, Repr

inductive Request where
  | addObserver (observer : Observer)
  | removeObserver (observer : Observer)
  | hasObserver (observer : Observer)
  | hasObservers
  | countObservers
  | postNotification (notification : Option SocketNotification)
  deriving DecidableEq, Repr

/-- What is seen of a centre.  A removal comes with the entry that it found, a post with
the list that it copied; an entry whose turn it is in a post is called or passed over. -/
inductive Event where
  | added (id : Nat) (observer : Observer)
  | removed (observer : Observer) (found : Option Nat)
  | answeredHas (observer : Observer) (answer : Bool)
  | answeredAny (answer : Bool)
  | counted (count : Nat)
  | copied (ids : List Nat)
  | called (id : Nat) (notification : Option SocketNotification)
  | passed (id : Nat) (notification : Option SocketNotification)
  | ended (id : Nat)
  deriving DecidableEq, Repr

/-- Where a call stands: before it has the centre's mutex, with the centre's mutex and
before that of the entry to be disabled, in the walk over the rest of a copied list, or
in a callback, with the mutex of its entry. -/
inductive Frame where
  | enter (request : Request)
  | disable (observer : Observer) (id : Nat)
  | walk (ids : List Nat) (notification : Option SocketNotification)
  | callback (id : Nat)
  deriving DecidableEq, Repr

/-- What a thread does next where its own code runs. -/
inductive Choice where
  | call (request : Request)
  | returns
  | throws
  deriving DecidableEq, Repr

end NotificationCenter

open NotificationCenter in
/-- `observers` are the entries on the list; the others are kept alive by posts that
copied the list before they were taken off it. -/
structure NotificationCenter where
  observers : List Nat
  cells : Nat → Observer
  allocated : Nat
  taken : Lock → Bool
  log : List Event

namespace NotificationCenter

open Function (update)

def empty : NotificationCenter where
  observers := []
  cells _ := Observer.onSocket 0 .readable 0
  allocated := 0
  taken _ := false
  log := []

variable (centre : NotificationCenter)

def note (event : Event) : NotificationCenter := { centre with log := centre.log ++ [event] }

def lock (lock : Lock) : NotificationCenter :=
  { centre with taken := update centre.taken lock true }

def unlock (lock : Lock) : NotificationCenter :=
  { centre with taken := update centre.taken lock false }

def find (observer : Observer) : Option Nat :=
  centre.observers.find? fun id => observer.equals (centre.cells id)

/-- `_observers.push_back(observer.clone())`. -/
def pushBack (observer : Observer) : NotificationCenter :=
  { centre with
    observers := centre.observers ++ [centre.allocated]
    cells := update centre.cells centre.allocated observer
    allocated := centre.allocated + 1 }

/-- `(*it)->disable()` and `_observers.erase(it)`. -/
def takeOff (id : Nat) : NotificationCenter :=
  { centre with
    observers := centre.observers.erase id
    cells := update centre.cells id (centre.cells id).disabled }

/-- Whether `notify` gets to the callback. -/
def listens (observer : Observer) (notification : Option SocketNotification) : Bool :=
  observer.object.isSome && observer.accepts notification

/-- A call with the centre's mutex, up to where it gives the mutex back or waits for
another one. -/
def serve : Request → NotificationCenter × List Frame
  | .addObserver observer =>
      ((centre.pushBack observer).note (.added centre.allocated observer), [])
  | .removeObserver observer =>
      match centre.find observer with
      | some id => (centre.lock .centre, [.disable observer id])
      | none => (centre.note (.removed observer none), [])
  | .hasObserver observer =>
      (centre.note (.answeredHas observer (centre.find observer).isSome), [])
  | .hasObservers => (centre.note (.answeredAny !centre.observers.isEmpty), [])
  | .countObservers => (centre.note (.counted centre.observers.length), [])
  | .postNotification notification =>
      (centre.note (.copied centre.observers), [.walk centre.observers notification])

/-- `notify` of an entry, with its mutex, up to where the callback has the word. -/
def notify (id : Nat) (notification : Option SocketNotification) :
    NotificationCenter × List Frame :=
  if listens (centre.cells id) notification then
    ((centre.lock (.observer id)).note (.called id notification), [.callback id])
  else (centre.note (.passed id notification), [])

def leave (id : Nat) : NotificationCenter :=
  (centre.unlock (.observer id)).note (.ended id)

/-- What an exception out of a callback leaves of the calls below it: it ends the post. -/
def unwound : List Frame → List Frame
  | .walk _ _ :: below => below
  | below => below

def act : List Frame → Choice → Option (NotificationCenter × List Frame)
  | [], .call request => some (centre, [.enter request])
  | [], _ => none
  | .callback id :: below, .call request => some (centre, .enter request :: .callback id :: below)
  | .callback id :: below, .returns => some (centre.leave id, below)
  | .callback id :: below, .throws => some (centre.leave id, unwound below)
  | .enter request :: below, _ =>
      if centre.taken .centre then none
      else some ((centre.serve request).1, (centre.serve request).2 ++ below)
  | .disable observer id :: below, _ =>
      if centre.taken (.observer id) then none
      else some (((centre.takeOff id).unlock .centre).note (.removed observer (some id)), below)
  | .walk [] _ :: below, _ => some (centre, below)
  | .walk (id :: ids) notification :: below, _ =>
      if centre.taken (.observer id) then none
      else some ((centre.notify id notification).1,
        (centre.notify id notification).2 ++ .walk ids notification :: below)

abbrev Pool (θ : Type) := Threads.Pool θ NotificationCenter (List Frame)

def start (θ : Type) : Pool θ := ⟨empty, fun _ => []⟩

def step {θ : Type} [DecidableEq θ] (pool : Pool θ) (turn : θ × Choice) : Option (Pool θ) :=
  Threads.step act pool turn

/-! Who has which mutex. -/

def Frame.locks : Frame → List Lock
  | .disable _ _ => [.centre]
  | .callback id => [.observer id]
  | .enter _ => []
  | .walk _ _ => []

def wants : List Frame → Option Lock
  | .enter _ :: _ => some .centre
  | .disable _ id :: _ => some (.observer id)
  | .walk (id :: _) _ :: _ => some (.observer id)
  | _ => none

def locking : Locking NotificationCenter (List Frame) Lock where
  taken := taken
  has frames := frames.flatMap Frame.locks
  wants := wants

inductive Sections (centre : NotificationCenter) :
    List Frame → NotificationCenter → List Frame → Prop
  | calls (request : Request) {frames : List Frame}
      (own : ∀ frame ∈ frames.head?, ∃ id, frame = .callback id) :
      Sections centre frames centre (.enter request :: frames)
  | ends (id : Nat) (below : List Frame) {rest : List Frame}
      (left : rest = below ∨ rest = unwound below) :
      Sections centre (.callback id :: below) (centre.leave id) rest
  | serves (request : Request) (below : List Frame) (free : centre.taken .centre = false) :
      Sections centre (.enter request :: below) (centre.serve request).1
        ((centre.serve request).2 ++ below)
  | disables (observer : Observer) (id : Nat) (below : List Frame)
      (free : centre.taken (.observer id) = false) :
      Sections centre (.disable observer id :: below)
        (((centre.takeOff id).unlock .centre).note (.removed observer (some id))) below
  | finishes (notification : Option SocketNotification) (below : List Frame) :
      Sections centre (.walk [] notification :: below) centre below
  | notifies (id : Nat) (ids : List Nat) (notification : Option SocketNotification)
      (below : List Frame) (free : centre.taken (.observer id) = false) :
      Sections centre (.walk (id :: ids) notification :: below)
        (centre.notify id notification).1
        ((centre.notify id notification).2 ++ .walk ids notification :: below)

variable {centre}

theorem sections_of_act {frames frames' : List Frame} {choice : Choice}
    {centre' : NotificationCenter} (acted : centre.act frames choice = some (centre', frames')) :
    Sections centre frames centre' frames' := by
  unfold act at acted
  split at acted
  · cases acted
    exact .calls _ fun _ member => absurd member (Option.not_mem_none _)
  · contradiction
  · cases acted
    exact .calls _ fun _ member => ⟨_, (Option.some.inj member).symm⟩
  · cases acted
    exact .ends _ _ (.inl rfl)
  · cases acted
    exact .ends _ _ (.inr rfl)
  · obtain ⟨free, result⟩ := Option.ite_none_left_eq_some.mp acted
    cases result
    exact .serves _ _ (Bool.not_eq_true _ ▸ free)
  · obtain ⟨free, result⟩ := Option.ite_none_left_eq_some.mp acted
    cases result
    exact .disables _ _ _ (Bool.not_eq_true _ ▸ free)
  · cases acted
    exact .finishes _ _
  · obtain ⟨free, result⟩ := Option.ite_none_left_eq_some.mp acted
    cases result
    exact .notifies _ _ _ _ (Bool.not_eq_true _ ▸ free)

theorem mem_of_mem_unwound {frame : Frame} {frames : List Frame}
    (member : frame ∈ unwound frames) : frame ∈ frames := by
  unfold unwound at member
  split at member
  · exact List.mem_cons_of_mem _ member
  · exact member

theorem has_unwound (frames : List Frame) :
    locking.has (unwound frames) = locking.has frames := by
  unfold unwound
  split <;> rfl

theorem handles_serve (request : Request) (below : List Frame)
    (free : centre.taken .centre = false) :
    locking.Handles centre (.enter request :: below) (centre.serve request).1
      ((centre.serve request).2 ++ below) := by
  cases request with
  | removeObserver observer =>
      rw [serve]
      split
      · exact .takes .centre free rfl rfl
      · exact .nothing rfl rfl
  | _ => exact .nothing rfl rfl

theorem handles_notify (id : Nat) (ids : List Nat) (notification : Option SocketNotification)
    (below : List Frame) (free : centre.taken (.observer id) = false) :
    locking.Handles centre (.walk (id :: ids) notification :: below)
      (centre.notify id notification).1
      ((centre.notify id notification).2 ++ .walk ids notification :: below) := by
  unfold notify
  split
  · exact .takes (.observer id) free rfl rfl
  · exact .nothing rfl rfl

/-- Every section takes and gives back the mutexes one at a time, the last taken first. -/
theorem disciplined : locking.Disciplined act where
  handles acted := by
    cases sections_of_act acted with
    | calls request => exact .nothing rfl rfl
    | ends id below left =>
        rcases left with rfl | rfl
        · exact .gives (.observer id) rfl rfl
        · exact .gives (.observer id) rfl (congrArg _ (has_unwound below).symm)
    | serves request below free => exact handles_serve request below free
    | disables observer id below => exact .gives .centre rfl rfl
    | finishes => exact .nothing rfl rfl
    | notifies id ids notification below free =>
        exact handles_notify id ids notification below free
  waits {centre frames lock} wanted taken choice := by
    match frames with
    | .enter _ :: _ | .disable _ _ :: _ | .walk (_ :: _) _ :: _ =>
        cases wanted
        exact if_pos taken
    | [] | .callback _ :: _ | .walk [] _ :: _ => contradiction

end NotificationCenter

end TestReactor
