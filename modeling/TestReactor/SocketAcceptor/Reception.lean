import TestReactor.ServerSocket.Ownership

namespace TestReactor

/-! The connections that a `SocketAcceptor` accepts, and the handlers that it makes for them. -/

namespace ServerSocket

namespace World

/-- An act that leaves the object `id` alone.  It may still copy it. -/
def Act.Spares (id : Nat) : Act → Prop
  | .init other _ => other ≠ id
  | .assign target _ => target ≠ id
  | .close other => other ≠ id
  | .destroy other => other ≠ id
  | _ => True

instance (id : Nat) (act : Act) : Decidable (act.Spares id) := by
  cases act <;> unfold Act.Spares <;> infer_instance

variable {world next : World} {act : Act} {id other : Nat} {object : Object}

theorem later_close : world.descriptors.Later (world.close id object).descriptors := by
  unfold World.close
  split
  · exact Descriptors.later_close _ _
  · exact .refl _

theorem created_close : (world.close id object).created = world.created := by
  unfold World.close
  split <;> rfl

theorem objects_destroy_of_ne (different : other ≠ id) :
    (world.destroy id object).objects other = world.objects other := by
  rw [destroy, objects_set_of_ne different, objects_close_of_ne different]

/-- A world as it may be some time after: of the objects, those that are spared are as they were. -/
structure Keeps (spared : Nat → Prop) (world next : World) : Prop where
  later : world.descriptors.Later next.descriptors
  created : world.created ≤ next.created
  objects : ∀ id, id < world.created → spared id → next.objects id = world.objects id

theorem Keeps.refl (spared : Nat → Prop) (world : World) : Keeps spared world world :=
  ⟨.refl _, Nat.le_refl _, fun _ _ _ => rfl⟩

theorem Keeps.trans {first second : Nat → Prop} {last : World} (keeps : Keeps first world next)
    (keeps' : Keeps second next last) : Keeps (fun id => first id ∧ second id) world last where
  later := keeps.later.trans keeps'.later
  created := Nat.le_trans keeps.created keeps'.created
  objects id made spared := by
    rw [keeps'.objects id (Nat.lt_of_lt_of_le made keeps.created) spared.2,
      keeps.objects id made spared.1]

theorem Keeps.mono {first second : Nat → Prop} (keeps : Keeps first world next)
    (fewer : ∀ id, id < world.created → second id → first id) : Keeps second world next :=
  ⟨keeps.later, keeps.created,
    fun id made spared => keeps.objects id made (fewer id made spared)⟩

theorem objects_create (made : id < world.created) :
    (world.create object).objects id = world.objects id :=
  objects_set_of_ne (Nat.ne_of_lt made)

theorem keeps_initSocket {answer : Except Nat Int}
    (done : world.initSocket id object answer = some next) :
    Keeps (Act.Spares · (.init id answer)) world next := by
  unfold World.initSocket at done
  split at done
  · cases done
    exact ⟨.refl _, Nat.le_refl _, fun _ _ _ => rfl⟩
  · cases answer with
    | error errno =>
        cases done
        exact ⟨.refl _, Nat.le_refl _, fun _ _ _ => rfl⟩
    | ok fd =>
        simp only [Option.ite_none_right_eq_some, Option.some.injEq] at done
        obtain ⟨free, rfl⟩ := done
        exact ⟨Descriptors.later_grant _ fd, Nat.le_refl _,
          fun _ _ spared => objects_set_of_ne spared.symm⟩

theorem keeps_acceptConnection {answers : List (Except Nat Int)}
    (done : world.acceptConnection object answers = some next) :
    Keeps (Act.Spares · (.acceptConnection id answers)) world next := by
  unfold World.acceptConnection at done
  split at done
  · cases done
    exact ⟨.refl _, Nat.le_refl _, fun _ _ _ => rfl⟩
  · split at done
    · contradiction
    · cases done
      exact ⟨.refl _, Nat.le_refl _, fun _ _ _ => rfl⟩
    · simp only [Option.ite_none_right_eq_some, Option.some.injEq] at done
      obtain ⟨free, rfl⟩ := done
      exact ⟨Descriptors.later_grant _ _, Nat.le_succ _, fun _ made _ => objects_create made⟩

theorem keeps_of_step (stepped : world.step act = some next) :
    Keeps (Act.Spares · act) world next := by
  cases act with
  | construct =>
      cases stepped
      exact ⟨.refl _, Nat.le_succ _, fun _ made _ => objects_create made⟩
  | init id answer =>
      obtain ⟨object, _, done⟩ := Option.bind_eq_some_iff.mp stepped
      exact keeps_initSocket done
  | acceptConnection id answers =>
      obtain ⟨object, _, done⟩ := Option.bind_eq_some_iff.mp stepped
      exact keeps_acceptConnection done
  | copy source =>
      obtain ⟨object, _, done⟩ := Option.bind_eq_some_iff.mp stepped
      cases done
      exact ⟨.refl _, Nat.le_succ _, fun _ made _ => objects_create made⟩
  | assign target source =>
      obtain ⟨_, _, rest⟩ := Option.bind_eq_some_iff.mp stepped
      obtain ⟨object, _, done⟩ := Option.bind_eq_some_iff.mp rest
      cases done
      exact ⟨.refl _, Nat.le_refl _, fun _ _ spared => objects_set_of_ne spared.symm⟩
  | close id =>
      obtain ⟨object, _, done⟩ := Option.bind_eq_some_iff.mp stepped
      cases done
      exact ⟨later_close, Nat.le_of_eq created_close.symm,
        fun _ _ spared => objects_close_of_ne spared.symm⟩
  | destroy id =>
      obtain ⟨object, _, done⟩ := Option.bind_eq_some_iff.mp stepped
      cases done
      exact ⟨later_close, Nat.le_of_eq created_close.symm,
        fun _ _ spared => objects_destroy_of_ne spared.symm⟩

theorem keeps_of_exec {acts : List Act} (reached : Runs.exec step world acts = some next) :
    Keeps (fun id => ∀ act ∈ acts, act.Spares id) world next := by
  induction acts generalizing world with
  | nil =>
      cases reached
      exact .refl _ _
  | cons act rest ih =>
      obtain ⟨middle, stepped, reached⟩ := Option.bind_eq_some_iff.mp reached
      exact ((keeps_of_step stepped).trans (ih reached)).mono fun id _ spared =>
        List.forall_mem_cons.mp spared

theorem lost_destroy (connected : object.socket.sockfd ≠ INVALID_SOCKET)
    (confined : world.descriptors.Confined object.opening object.socket.sockfd) :
    (world.destroy id object).descriptors.Lost object.opening := by
  have closed : (world.destroy id object).descriptors =
      world.descriptors.close object.socket.sockfd := by
    rw [show (world.destroy id object).descriptors = (world.close id object).descriptors from rfl,
      World.close, if_pos connected]
  rw [closed]
  exact confined.lost_close

end World

end ServerSocket

namespace SocketAcceptor

open ServerSocket (World Closing INVALID_SOCKET)

/-- The sockets of a program with an acceptor, whose `_socket` is the object `socket`.
`handlers` are those of the handlers it has made that are still there, `parted` what the
destructors of the others have closed. -/
structure Reception where
  world : World
  socket : Nat
  handlers : List Nat
  parted : List Closing

namespace Reception

/-- The `_socket`s of the acceptor and of its handlers are private. -/
def Spares (reception : Reception) (act : World.Act) : Prop :=
  act.Spares reception.socket ∧ ∀ handler ∈ reception.handlers, act.Spares handler

instance (reception : Reception) (act : World.Act) : Decidable (reception.Spares act) :=
  inferInstanceAs (Decidable (_ ∧ _))

/-- `createServiceHandler(socket)`, with the `_socket` of the handler that is made.  `during`
is what becomes of other sockets while the handler's constructor makes its calls on the reactor;
when one of them throws, the constructor takes `_socket` down with it. -/
def createServiceHandler (world : World) (socket : Nat) (during : List World.Act)
    (throws : Bool) : Option (World × List Nat) := do
  let copied ← world.step (.copy socket)
  let busy ← Runs.exec World.step copied during
  if throws then return (← busy.step (.destroy world.created), [])
  else return (busy, [world.created])

/-- `onAccept`, up to the end of `sock`. -/
def onAccept (reception : Reception) (answers : List (Except Nat Int))
    (during : List World.Act) (throws : Bool) : Option Reception := do
  let listening ← reception.world.objects reception.socket
  let sock := reception.world.created
  let accepted ← reception.world.step (.acceptConnection reception.socket answers)
  if listening.socket.sockfd = INVALID_SOCKET then none
  else if accepted.created = sock then return { reception with world := accepted }
  else
    let (busy, made) ← createServiceHandler accepted sock during throws
    let left ← busy.step (.destroy sock)
    return { reception with world := left, handlers := reception.handlers ++ made }

/-- What happens around an acceptor: it is called back, something is done to other sockets, or
one of its handlers deletes itself. -/
inductive Event where
  | onAccept (answers : List (Except Nat Int)) (during : List World.Act) (throws : Bool)
  | elsewhere (act : World.Act)
  | deleted (handler : Nat)

def step (reception : Reception) : Event → Option Reception
  | .onAccept answers during throws =>
      let sock := reception.world.created
      if ∀ act ∈ during, reception.Spares act ∧ act.Spares sock ∧ act.Spares (sock + 1) then
        reception.onAccept answers during throws
      else none
  | .elsewhere act =>
      if reception.Spares act then
        (reception.world.step act).map fun world => { reception with world := world }
      else none
  | .deleted handler =>
      if handler ∈ reception.handlers then
        (reception.world.step (.destroy handler)).map fun world =>
          { reception with
            world := world
            handlers := reception.handlers.filter (· ≠ handler)
            parted := reception.parted ++
              world.closings.drop reception.world.closings.length }
      else none

/-- The handlers take themselves to be connected, and what they were made for has been closed;
none has ever closed it itself. -/
structure Cut (reception : Reception) : Prop where
  handlers : ∀ handler ∈ reception.handlers, ∃ object,
    reception.world.objects handler = some object ∧ object.socket.sockfd ≠ INVALID_SOCKET ∧
      ∀ fd, reception.world.descriptors.denotes fd ≠ some object.opening
  parted : ∀ closing ∈ reception.parted, closing.denoted ≠ some closing.opening

/-- The socket of a handler whose connection is lost. -/
structure Stranded (world : World) (handler : Nat) (object : ServerSocket.Object) : Prop where
  made : handler < world.created
  held : world.objects handler = some object
  connected : object.socket.sockfd ≠ INVALID_SOCKET
  lost : world.descriptors.Lost object.opening

structure Severed (reception : Reception) : Prop where
  dated : reception.world.descriptors.Dated
  handlers : ∀ handler ∈ reception.handlers, ∃ object,
    Stranded reception.world handler object
  parted : ∀ closing ∈ reception.parted, closing.denoted ≠ some closing.opening

variable {reception next : Reception} {world busy : World} {spared : Nat → Prop}

theorem Severed.cut (severed : reception.Severed) : reception.Cut where
  handlers handler member := by
    obtain ⟨object, stranded⟩ := severed.handlers handler member
    exact ⟨object, stranded.held, stranded.connected, stranded.lost.gone⟩
  parted := severed.parted

theorem Stranded.keeps {handler : Nat} {object : ServerSocket.Object}
    (stranded : Stranded world handler object) (keeps : World.Keeps spared world busy)
    (alone : spared handler) : Stranded busy handler object where
  made := Nat.lt_of_lt_of_le stranded.made keeps.created
  held := (keeps.objects handler stranded.made alone).trans stranded.held
  connected := stranded.connected
  lost := stranded.lost.later keeps.later

theorem Severed.keeps (severed : reception.Severed)
    (keeps : World.Keeps spared reception.world world)
    (alone : ∀ handler ∈ reception.handlers, spared handler) :
    { reception with world := world }.Severed where
  dated := keeps.later.dated severed.dated
  handlers handler member := by
    obtain ⟨object, stranded⟩ := severed.handlers handler member
    exact ⟨object, stranded.keeps keeps (alone handler member)⟩
  parted := severed.parted

theorem Severed.joined (severed : reception.Severed) {made : List Nat}
    (stranded : ∀ handler ∈ made, ∃ object, Stranded reception.world handler object) :
    { reception with handlers := reception.handlers ++ made }.Severed where
  dated := severed.dated
  handlers handler member := by
    rcases List.mem_append.mp member with before | new
    · exact severed.handlers handler before
    · exact stranded handler new
  parted := severed.parted

theorem accepted_cases {object : ServerSocket.Object} {id : Nat}
    {answers : List (Except Nat Int)} {accepted : World} (found : world.objects id = some object)
    (stepped : world.step (.acceptConnection id answers) = some accepted) :
    accepted = world ∨ ∃ fd, 0 ≤ fd ∧ accepted =
      (world.grant fd).create ⟨ServerSocket.ofDescriptor fd, world.descriptors.openings⟩ := by
  obtain ⟨again, same, done⟩ := Option.bind_eq_some_iff.mp stepped
  cases found.symm.trans same
  unfold World.acceptConnection at done
  split at done
  · exact .inl (Option.some.inj done).symm
  · split at done
    · contradiction
    · exact .inl (Option.some.inj done).symm
    · simp only [Option.ite_none_right_eq_some, Option.some.injEq] at done
      obtain ⟨free, rfl⟩ := done
      exact .inr ⟨_, free.1, rfl⟩

theorem of_createServiceHandler {object : ServerSocket.Object} {socket : Nat}
    {during : List World.Act} {throws : Bool} {made : List Nat}
    (found : world.objects socket = some object)
    (alone : ∀ act ∈ during, act.Spares world.created)
    (done : createServiceHandler world socket during throws = some (busy, made)) :
    World.Keeps (fun id => ∀ act ∈ during, act.Spares id) world busy ∧
      ∀ handler ∈ made, handler = world.created ∧ handler < busy.created ∧
        busy.objects handler = some object := by
  obtain ⟨copied, copies, rest⟩ := Option.bind_eq_some_iff.mp done
  obtain ⟨last, reached, rest⟩ := Option.bind_eq_some_iff.mp rest
  have copying := World.keeps_of_step copies
  have running := World.keeps_of_exec reached
  have copies : copied = world.create object := by
    obtain ⟨again, same, done⟩ := Option.bind_eq_some_iff.mp copies
    cases found.symm.trans same
    exact (Option.some.inj done).symm
  have both := copying.trans running
  cases throws with
  | true =>
      obtain ⟨unwound, destroys, rest⟩ := Option.bind_eq_some_iff.mp rest
      cases rest
      refine ⟨(both.trans (World.keeps_of_step destroys)).mono fun id old spared => ?_, ?_⟩
      · exact ⟨⟨trivial, spared⟩, Nat.ne_of_gt old⟩
      · exact fun handler member => absurd member List.not_mem_nil
  | false =>
      cases rest
      refine ⟨both.mono fun id _ spared => ⟨trivial, spared⟩, fun handler member => ?_⟩
      obtain rfl := List.mem_singleton.mp member
      have old : world.created < copied.created := by
        rw [copies]
        exact Nat.lt_succ_self _
      refine ⟨rfl, Nat.lt_of_lt_of_le old running.created, ?_⟩
      rw [running.objects _ old alone, copies]
      exact World.objects_set_self _

/-- The socket of a new connection closes the connection when it goes, and with it the handler's. -/
theorem Severed.serves (severed : reception.Severed) {accepted left : World}
    {object : ServerSocket.Object} {during : List World.Act} {throws : Bool} {made : List Nat}
    (keeps : World.Keeps (fun _ => True) reception.world accepted)
    (created : accepted.created = reception.world.created + 1)
    (found : accepted.objects reception.world.created = some object)
    (connected : object.socket.sockfd ≠ INVALID_SOCKET)
    (confined : accepted.descriptors.Confined object.opening object.socket.sockfd)
    (alone : ∀ act ∈ during, reception.Spares act ∧ act.Spares reception.world.created ∧
      act.Spares (reception.world.created + 1))
    (creates : createServiceHandler accepted reception.world.created during throws =
      some (busy, made))
    (destroys : busy.step (.destroy reception.world.created) = some left) :
    { reception with world := left, handlers := reception.handlers ++ made }.Severed := by
  obtain ⟨serving, copies⟩ := of_createServiceHandler found
    (fun act member => created ▸ (alone act member).2.2) creates
  have leaving := World.keeps_of_step destroys
  have old := severed.handlers
  have others := severed.keeps ((keeps.trans serving).trans leaving)
    fun handler member => ⟨⟨trivial, fun act among => (alone act among).1.2 handler member⟩, by
      obtain ⟨_, stranded⟩ := severed.handlers handler member
      exact Nat.ne_of_gt stranded.made⟩
  have lost : left.descriptors.Lost object.opening := by
    obtain ⟨again, held, done⟩ := Option.bind_eq_some_iff.mp destroys
    have same := serving.objects reception.world.created (by omega)
      fun act member => (alone act member).2.1
    rw [same, found] at held
    cases held
    cases done
    exact World.lost_destroy connected (confined.later serving.later)
  refine others.joined fun handler member => ⟨object, ?_⟩
  obtain ⟨rfl, within, held⟩ := copies handler member
  have different : reception.world.created ≠ accepted.created := by omega
  exact ⟨Nat.lt_of_lt_of_le within leaving.created,
    (leaving.objects _ within different).trans held, connected, lost⟩

theorem Severed.onAccept (severed : reception.Severed) {answers : List (Except Nat Int)}
    {during : List World.Act} {throws : Bool}
    (alone : ∀ act ∈ during, reception.Spares act ∧ act.Spares reception.world.created ∧
      act.Spares (reception.world.created + 1))
    (done : reception.onAccept answers during throws = some next) : next.Severed := by
  obtain ⟨listening, found, rest⟩ := Option.bind_eq_some_iff.mp done
  obtain ⟨accepted, stepped, rest⟩ := Option.bind_eq_some_iff.mp rest
  have accepts := World.keeps_of_step stepped
  split at rest
  case isTrue => contradiction
  case isFalse =>
    rcases accepted_cases found stepped with same | ⟨fd, valid, new⟩
    · rw [same, if_pos rfl] at rest
      cases rest
      exact severed
    · have created : accepted.created = reception.world.created + 1 := by rw [new]; rfl
      rw [if_neg (by omega)] at rest
      obtain ⟨⟨busy, made⟩, creates, rest⟩ := Option.bind_eq_some_iff.mp rest
      obtain ⟨left, destroys, rest⟩ := Option.bind_eq_some_iff.mp rest
      cases rest
      have held : accepted.objects reception.world.created =
          some ⟨ServerSocket.ofDescriptor fd, reception.world.descriptors.openings⟩ := by
        rw [new]
        exact World.objects_set_self _
      refine severed.serves (accepts.mono fun _ _ _ => trivial) created held ?_ ?_ alone creates
        destroys
      · rintro (invalid : fd = -1)
        omega
      · rw [new]
        exact severed.dated.confined_grant fd

theorem Severed.deleted (severed : reception.Severed) {handler : Nat}
    (member : handler ∈ reception.handlers)
    (stepped : reception.world.step (.destroy handler) = some world) :
    { reception with
      world := world
      handlers := reception.handlers.filter (· ≠ handler)
      parted := reception.parted ++
        world.closings.drop reception.world.closings.length }.Severed := by
  have keeps := World.keeps_of_step stepped
  obtain ⟨object, stranded⟩ := severed.handlers handler member
  have closings : world.closings = reception.world.closings ++
      [⟨reception.world.descriptors.denotes object.socket.sockfd, object.opening⟩] := by
    obtain ⟨again, held, done⟩ := Option.bind_eq_some_iff.mp stepped
    cases stranded.held.symm.trans held
    cases done
    rw [show (reception.world.destroy handler object).closings =
      (reception.world.close handler object).closings from rfl, World.close,
      if_pos stranded.connected]
  refine ⟨keeps.later.dated severed.dated, fun other among => ?_, ?_⟩
  · rw [List.mem_filter, decide_eq_true_iff] at among
    obtain ⟨its, kept⟩ := severed.handlers other among.1
    exact ⟨its, kept.keeps keeps among.2.symm⟩
  · rw [closings, List.drop_left]
    intro closing among
    rcases List.mem_append.mp among with before | last
    · exact severed.parted closing before
    · obtain rfl := List.mem_singleton.mp last
      exact stranded.lost.gone _

theorem Severed.step (severed : reception.Severed) {event : Event}
    (stepped : reception.step event = some next) : next.Severed := by
  cases event with
  | onAccept answers during throws =>
      obtain ⟨alone, done⟩ := Option.ite_none_right_eq_some.mp stepped
      exact severed.onAccept alone done
  | elsewhere act =>
      obtain ⟨alone, done⟩ := Option.ite_none_right_eq_some.mp stepped
      obtain ⟨world, acted, rfl⟩ := Option.map_eq_some_iff.mp done
      exact severed.keeps (World.keeps_of_step acted) alone.2
  | deleted handler =>
      obtain ⟨member, done⟩ := Option.ite_none_right_eq_some.mp stepped
      obtain ⟨world, acted, rfl⟩ := Option.map_eq_some_iff.mp done
      exact severed.deleted member acted

/-- In every program with an acceptor: whatever the kernel answers and whatever is done to other
sockets, no handler that the acceptor makes ever has its connection, and what the handlers'
destructors close is never their own. -/
theorem handlers_are_cut_off {acts : List World.Act} {world : World}
    (reached : Runs.exec World.step World.start acts = some world) (socket : Nat)
    (events : List Event) : Runs.Always step Cut ⟨world, socket, [], []⟩ events := by
  have start : World.start.descriptors.Dated := fun fd opening denotes => by contradiction
  have severed : Severed ⟨world, socket, [], []⟩ :=
    ⟨(World.keeps_of_exec reached).later.dated start,
      fun _ member => absurd member List.not_mem_nil,
      fun _ member => absurd member List.not_mem_nil⟩
  exact (Runs.always_of_keeps (fun _ _ _ severed stepped => severed.step stepped) severed).mono
    fun _ severed => severed.cut

/-- A second connection gets the descriptor of the first.  The first handler has neither, and
closes the second one when it deletes itself. -/
theorem first_handler_closes_second_connection :
    let acts : List World.Act := [.construct, .init 0 (.ok 3)]
    ∃ world, Runs.exec World.step World.start acts = some world ∧
      Runs.Always step Cut ⟨world, 0, [], []⟩
        [.onAccept [.ok 4] [] false, .elsewhere (.acceptConnection 0 [.ok 4]), .deleted 2] ∧
      ((Runs.exec step ⟨world, 0, [], []⟩
        [.onAccept [.ok 4] [] false, .elsewhere (.acceptConnection 0 [.ok 4]), .deleted 2]).map
          Reception.parted) = some [⟨some 2, 1⟩] := by
  intro acts
  exact ⟨_, rfl, @handlers_are_cut_off acts _ rfl 0 _, by decide⟩

end Reception

end SocketAcceptor

end TestReactor
