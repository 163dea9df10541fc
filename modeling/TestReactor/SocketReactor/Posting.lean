import TestReactor.Edit
import TestReactor.SocketReactor.Ready

namespace TestReactor

namespace SocketReactor

/-! One `NotificationCenter::postNotification`, while the callbacks add observers to the
centre and remove observers from it. -/

namespace NotificationCenter

def edit (n : Nat) : Edit Observer → Method Unit
  | .add observer => addObserver n observer
  | .remove observer => removeObserver n observer

end NotificationCenter

/-- What happens in a post: an entry of the copied list has its turn, it is called back,
and its callback edits the list. -/
inductive PostEvent where
  | turn (id : Nat)
  | invoked (id : Nat) (observer : Observer)
  | edited (edit : Edit Observer)
  deriving DecidableEq, Repr

/-- A post under way.  `behaviour n` are the edits that the `n`-th callback makes. -/
structure Posting where
  reactor : SocketReactor
  log : List PostEvent
  behaviour : Nat → List (Edit Observer)
  invocations : Nat

namespace Posting

abbrev Method (α : Type) := Exec Posting α

def start (reactor : SocketReactor) (behaviour : Nat → List (Edit Observer)) : Posting where
  reactor := reactor
  log := []
  behaviour := behaviour
  invocations := 0

def reactorField : Field Posting SocketReactor where
  get := reactor
  set reactor posting := { posting with reactor := reactor }
  get_set _ _ := rfl
  set_get _ := rfl
  set_set _ _ _ := rfl

def onReactor (body : SocketReactor.Method α) : Method α := Exec.on reactorField body

def observerMutex (id : Nat) : Field Posting Mutex where
  get posting := (SocketReactor.observerMutex id).get posting.reactor
  set mutex posting :=
    { posting with reactor := (SocketReactor.observerMutex id).set mutex posting.reactor }
  get_set _ _ := by simp
  set_get _ := by simp
  set_set _ _ _ := by simp

def record (event : PostEvent) : Method Unit :=
  modify fun posting => { posting with log := posting.log ++ [event] }

def perform (n : Nat) (edit : Edit Observer) : Method Unit := do
  record (.edited edit)
  onReactor (NotificationCenter.edit n edit)

/-- `(_pObject->*_method)(pCastNf)`, by the observer in the cell `id`. -/
def callBack (n id : Nat) (observer : Observer) : Method Unit := do
  record (.invoked id observer)
  let posting ← get
  let edits := posting.behaviour posting.invocations
  set { posting with invocations := posting.invocations + 1 }
  Exec.forEach edits (perform n)

def notify (n : Nat) (notification : Option SocketNotification) (id : Nat) : Method Unit :=
  scopedLock (observerMutex id) do
    let observer := ((← get).reactor.cells id).observer
    Exec.when (observer.object.isSome && observer.accepts notification) (callBack n id observer)

/-- `NotificationCenter::postNotification`: it walks a copy of the list. -/
def postNotification (n : Nat) (notification : Option SocketNotification) : Method Unit := do
  let observers ← onReactor (NotificationCenter.observersToNotify n)
  Exec.forEach observers fun id => do
    record (.turn id)
    notify n notification id

/-! What the log says. -/

def turns (log : List PostEvent) : List Nat :=
  log.filterMap fun
    | .turn id => some id
    | _ => none

def invoked (log : List PostEvent) : List (Nat × Observer) :=
  log.filterMap fun
    | .invoked id observer => some (id, observer)
    | _ => none

def edits (log : List PostEvent) : List (Edit Observer) :=
  log.filterMap fun
    | .edited edit => some edit
    | _ => none

/-- The edits that are made before the turn of an entry. -/
def editsBefore (log : List PostEvent) (id : Nat) : List (Edit Observer) :=
  edits (log.takeWhile (· != .turn id))

end Posting

def entries (reactor : SocketReactor) (n : Nat) : List (Nat × Observer) :=
  (reactor.notifiers n).observers.map fun id => (id, (reactor.cells id).observer)

/-- An entry of a list is still there after some edits of the list. -/
def Remains (list : List (Nat × Observer)) (edits : List (Edit Observer))
    (entry : Nat × Observer) : Prop :=
  (some entry.1, entry.2) ∈
    edits.foldl Edit.applyTagged (list.map fun entry => (some entry.1, entry.2))

instance (list : List (Nat × Observer)) (edits : List (Edit Observer)) :
    DecidablePred (Remains list edits) :=
  fun entry => inferInstanceAs (Decidable ((some entry.1, entry.2) ∈ _))

end SocketReactor

end TestReactor
