import TestReactor.Descriptors
import TestReactor.Runs
import TestReactor.ServerSocket

namespace TestReactor

/-! Which descriptor a `ServerSocket` refers to, through copies, assignments,
closings and destructions.  The kernel may give out any descriptor that is not
open. -/

namespace ServerSocket

/-- `ServerSocket(int sockfd)`; `ServerSocket()` is the case `INVALID_SOCKET`. -/
def ofDescriptor (sockfd : Int) : ServerSocket where
  sockfd := sockfd
  blocking := false

/-- A live `ServerSocket`, with the opening that its descriptor was obtained from. -/
structure Object where
  socket : ServerSocket
  opening : Nat

/-- A call of `::close`: what the descriptor denoted then, and the opening that
the caller had it from. -/
structure Closing where
  denoted : Option Nat
  opening : Nat
  deriving DecidableEq

structure World where
  descriptors : Descriptors
  objects : Nat → Option Object
  created : Nat
  closings : List Closing

namespace World

def start : World where
  descriptors := .empty
  objects := fun _ => none
  created := 0
  closings := []

def set (world : World) (id : Nat) (object : Option Object) : World :=
  { world with objects := fun other => if other = id then object else world.objects other }

def create (world : World) (object : Object) : World :=
  { world.set world.created (some object) with created := world.created + 1 }

def grant (world : World) (fd : Int) : World :=
  { world with descriptors := world.descriptors.grant fd }

/-- `initSocket`.  A failed `::socket` stores `INVALID_SOCKET` again. -/
def initSocket (world : World) (id : Nat) (object : Object) (answer : Except Nat Int) :
    Option World :=
  if object.socket.sockfd ≠ INVALID_SOCKET then some world
  else
    match answer with
    | .error _ => some world
    | .ok fd =>
        if world.descriptors.Free fd then
          some ((world.grant fd).set id
            (some ⟨{ object.socket with sockfd := fd }, world.descriptors.openings⟩))
        else none

/-- `acceptConnection`: no object comes of a null pointer or of an exception. -/
def acceptConnection (world : World) (object : Object) (answers : List (Except Nat Int)) :
    Option World :=
  if object.socket.sockfd = INVALID_SOCKET then some world
  else
    match Errno.retried answers with
    | none => none
    | some (.error _) => some world
    | some (.ok fd) =>
        if world.descriptors.Free fd then
          some ((world.grant fd).create ⟨ofDescriptor fd, world.descriptors.openings⟩)
        else none

/-- `ServerSocket::close()`. -/
def close (world : World) (id : Nat) (object : Object) : World :=
  if object.socket.sockfd ≠ INVALID_SOCKET then
    { world.set id (some { object with
        socket := { object.socket with sockfd := INVALID_SOCKET } }) with
      descriptors := world.descriptors.close object.socket.sockfd
      closings := world.closings ++
        [⟨world.descriptors.denotes object.socket.sockfd, object.opening⟩] }
  else world

/-- `~ServerSocket()`. -/
def destroy (world : World) (id : Nat) (object : Object) : World :=
  (world.close id object).set id none

/-- What can happen to the `ServerSocket`s of a program.  The copy constructor and
the assignment are those the compiler writes: they copy the fields. -/
inductive Act where
  | construct
  | init (id : Nat) (answer : Except Nat Int)
  | acceptConnection (id : Nat) (answers : List (Except Nat Int))
  | copy (source : Nat)
  | assign (target source : Nat)
  | close (id : Nat)
  | destroy (id : Nat)

def step (world : World) : Act → Option World
  | .construct => some (world.create ⟨ofDescriptor INVALID_SOCKET, 0⟩)
  | .init id answer => do world.initSocket id (← world.objects id) answer
  | .acceptConnection id answers => do
      world.acceptConnection (← world.objects id) answers
  | .copy source => do return world.create (← world.objects source)
  | .assign target source => do
      let _ ← world.objects target
      return world.set target (some (← world.objects source))
  | .close id => do return world.close id (← world.objects id)
  | .destroy id => do return world.destroy id (← world.objects id)

/-- Every live `ServerSocket` refers to what it was obtained for, and so did every
one that has closed its descriptor. -/
structure Owned (world : World) : Prop where
  valid : ∀ id object, world.objects id = some object →
    object.socket.sockfd ≠ INVALID_SOCKET →
    world.descriptors.denotes object.socket.sockfd = some object.opening
  closed : ∀ closing ∈ world.closings, closing.denoted = some closing.opening

/-- No live `ServerSocket` but `id` holds the descriptor of `id`. -/
def Sole (world : World) (id : Nat) : Prop :=
  ∀ object, world.objects id = some object → object.socket.sockfd ≠ INVALID_SOCKET →
    ∀ other copy, other ≠ id → world.objects other = some copy →
      copy.socket.sockfd ≠ object.socket.sockfd

def ClosesSole (world : World) : Act → Prop
  | .close id => world.Sole id
  | .destroy id => world.Sole id
  | _ => True

variable {world next : World} {id other : Nat} {object copy : Object}

theorem objects_set_self (object : Option Object) : (world.set id object).objects id = object :=
  if_pos rfl

theorem objects_set_of_ne {object : Option Object} (different : other ≠ id) :
    (world.set id object).objects other = world.objects other := if_neg different

theorem owned_start : start.Owned where
  valid := by
    intro id object found
    simp [start] at found
  closed := by simp [start]

theorem Owned.set (owned : world.Owned) {object : Option Object}
    (valid : ∀ stored, object = some stored → stored.socket.sockfd ≠ INVALID_SOCKET →
      world.descriptors.denotes stored.socket.sockfd = some stored.opening) :
    (world.set id object).Owned where
  valid := by
    intro other stored found connected
    by_cases same : other = id
    · rw [same, objects_set_self] at found
      exact valid stored found connected
    · rw [objects_set_of_ne same] at found
      exact owned.valid other stored found connected
  closed := owned.closed

theorem Owned.create (owned : world.Owned)
    (valid : object.socket.sockfd ≠ INVALID_SOCKET →
      world.descriptors.denotes object.socket.sockfd = some object.opening) :
    (world.create object).Owned := by
  have stored : (world.set world.created (some object)).Owned := by
    apply owned.set
    rintro _ ⟨rfl⟩
    exact valid
  exact ⟨stored.valid, stored.closed⟩

theorem Owned.grant (owned : world.Owned) {fd : Int} (free : world.descriptors.Free fd) :
    (world.grant fd).Owned where
  valid := by
    intro id object found connected
    exact Descriptors.denotes_grant_of_denotes free (owned.valid id object found connected)
  closed := owned.closed

theorem Owned.initSocket (owned : world.Owned) {answer : Except Nat Int}
    (done : world.initSocket id object answer = some next) : next.Owned := by
  unfold World.initSocket at done
  split at done
  · cases done
    exact owned
  · cases answer with
    | error errno =>
        cases done
        exact owned
    | ok fd =>
        simp only [Option.ite_none_right_eq_some, Option.some.injEq] at done
        obtain ⟨free, rfl⟩ := done
        apply (owned.grant free).set
        rintro _ ⟨rfl⟩ _
        exact Descriptors.denotes_grant_self

theorem Owned.acceptConnection (owned : world.Owned) {answers : List (Except Nat Int)}
    (done : world.acceptConnection object answers = some next) : next.Owned := by
  unfold World.acceptConnection at done
  split at done
  · cases done
    exact owned
  · cases outcome : Errno.retried answers with
    | none => simp [outcome] at done
    | some result =>
        cases result with
        | error errno =>
            simp only [outcome, Option.some.injEq] at done
            exact done ▸ owned
        | ok fd =>
            simp only [outcome, Option.ite_none_right_eq_some, Option.some.injEq] at done
            obtain ⟨free, rfl⟩ := done
            apply (owned.grant free).create
            intro _
            exact Descriptors.denotes_grant_self

theorem Owned.close (owned : world.Owned) (found : world.objects id = some object)
    (sole : world.Sole id) : (world.close id object).Owned := by
  unfold World.close
  split
  case isFalse => exact owned
  case isTrue connected =>
    constructor
    · intro other stored at_other valid
      by_cases same : other = id
      · rw [show other = id from same] at at_other
        cases (objects_set_self _).symm.trans at_other
        exact absurd rfl valid
      · have before : world.objects other = some stored :=
          (objects_set_of_ne same).symm.trans at_other
        have different := sole object found connected other stored same before
        rw [Descriptors.denotes_close_of_ne different]
        exact owned.valid other stored before valid
    · intro closing member
      rcases List.mem_append.mp member with earlier | last
      · exact owned.closed closing earlier
      · obtain rfl := List.mem_singleton.mp last
        exact owned.valid id object found connected

theorem Owned.step (owned : world.Owned) {act : Act} (stepped : world.step act = some next)
    (sole : world.ClosesSole act) : next.Owned := by
  cases act with
  | construct =>
      cases stepped
      exact owned.create (fun valid => absurd rfl valid)
  | init id answer =>
      obtain ⟨object, _, done⟩ := Option.bind_eq_some_iff.mp stepped
      exact owned.initSocket done
  | acceptConnection id answers =>
      obtain ⟨object, _, done⟩ := Option.bind_eq_some_iff.mp stepped
      exact owned.acceptConnection done
  | copy source =>
      obtain ⟨object, found, done⟩ := Option.bind_eq_some_iff.mp stepped
      cases done
      exact owned.create (owned.valid source object found)
  | assign target source =>
      obtain ⟨_, _, rest⟩ := Option.bind_eq_some_iff.mp stepped
      obtain ⟨object, found, done⟩ := Option.bind_eq_some_iff.mp rest
      cases done
      apply owned.set
      rintro _ ⟨rfl⟩
      exact owned.valid source object found
  | close id =>
      obtain ⟨object, found, done⟩ := Option.bind_eq_some_iff.mp stepped
      cases done
      exact owned.close found sole
  | destroy id =>
      obtain ⟨object, found, done⟩ := Option.bind_eq_some_iff.mp stepped
      cases done
      apply (owned.close found sole).set
      intro stored absent
      contradiction

theorem sole_of_owned_close (found : world.objects id = some object)
    (unrelated : ∀ other copy, other ≠ id → world.objects other = some copy →
      next.objects other = some copy)
    (closed : next.descriptors = (world.close id object).descriptors)
    (owned : next.Owned) : world.Sole id := by
  intro again at_id connected other copy different at_other same
  obtain rfl : object = again := Option.some.inj (found.symm.trans at_id)
  have denotes := owned.valid other copy (unrelated other copy different at_other)
    (same ▸ connected)
  rw [closed, World.close, if_pos connected, same, Descriptors.denotes_close_self] at denotes
  contradiction

theorem objects_close_of_ne (different : other ≠ id) :
    (world.close id object).objects other = world.objects other := by
  unfold World.close
  split
  · exact objects_set_of_ne different
  · rfl

theorem closesSole_of_owned {act : Act} (stepped : world.step act = some next)
    (owned : next.Owned) : world.ClosesSole act := by
  cases act with
  | close id =>
      obtain ⟨object, found, done⟩ := Option.bind_eq_some_iff.mp stepped
      cases done
      refine sole_of_owned_close found ?_ rfl owned
      intro other copy different at_other
      rw [objects_close_of_ne different, at_other]
  | destroy id =>
      obtain ⟨object, found, done⟩ := Option.bind_eq_some_iff.mp stepped
      cases done
      have closed : (world.destroy id object).descriptors =
          (world.close id object).descriptors := rfl
      refine sole_of_owned_close found ?_ closed owned
      intro other copy different at_other
      rw [World.destroy, objects_set_of_ne different, objects_close_of_ne different, at_other]
  | construct | init | acceptConnection | copy | assign => trivial

/-- Descriptors stay with their sockets throughout exactly the runs in which no
descriptor is closed, by `close` or by the destructor, that another live
`ServerSocket` holds. -/
theorem owned_iff_closes_sole (acts : List Act) :
    start.Owned ∧
      (Runs.Always step Owned start acts ↔ Runs.Each step ClosesSole start acts) := by
  refine ⟨owned_start, ?_⟩
  exact Runs.always_iff_each Owned
    (fun world act next owned stepped sole => owned.step stepped sole)
    (fun world owned => owned)
    (fun world act next owned stepped after => closesSole_of_owned stepped after)
    owned_start

/-- `SocketAcceptor::onAccept`: the handler keeps a copy of the accepted socket, and
the pointer that `acceptConnection` returned is dropped.  The handler is left with
a descriptor that is closed, and its own destructor closes it once more. -/
theorem accepted_socket_is_closed_under_handler :
    let acts : List Act :=
      [.construct, .init 0 (.ok 3), .acceptConnection 0 [.ok 4], .copy 1, .destroy 1]
    ¬ Runs.Always step Owned start acts ∧
      ∃ world, Runs.exec step start acts = some world ∧
        ∃ after, world.step (.destroy 2) = some after ∧ ⟨none, 1⟩ ∈ after.closings := by
  constructor
  · intro always
    have owned := ((((always _ rfl).2 _ rfl).2 _ rfl).2 _ rfl).2 _ rfl
    have denotes := owned.1.valid 2 _ rfl (by decide)
    contradiction
  · exact ⟨_, rfl, _, rfl, by decide⟩

end World

end ServerSocket

end TestReactor
