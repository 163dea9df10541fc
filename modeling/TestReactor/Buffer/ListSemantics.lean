import TestReactor.Buffer.Elements
import TestReactor.Runs

namespace TestReactor

namespace Buffer

open Function (update)

namespace Objects

def WellFormed (objects : Objects T) : Prop :=
  ∀ id buffer, objects id = some buffer → buffer.WellFormed

theorem WellFormed.update {objects : Objects T} (wellFormed : objects.WellFormed) (id : Nat)
    {buffer : Buffer T} (sound : buffer.WellFormed) :
    WellFormed (update objects id (some buffer)) := by
  intro other found there
  by_cases same : other = id
  · subst same
    rw [Function.update_self] at there
    cases there
    exact sound
  · rw [Function.update_of_ne same] at there
    exact wellFormed other found there

@[simp] theorem run_object {objects : Objects T} {id : Nat} {buffer : Buffer T}
    (here : objects id = some buffer) : (object id).run objects = .ok buffer objects := by
  simp [object, here]

@[simp] theorem run_put (objects : Objects T) (id : Nat) (buffer : Buffer T) :
    (put id buffer).run objects = .ok () (update objects id (some buffer)) := rfl

theorem returns_call_ok {objects : Objects T} {id : Nat} {buffer next : Buffer T}
    {body : Buffer.Method T Unit} (here : objects id = some buffer)
    (ran : body.run buffer = .ok () next) :
    (call id body).returns objects = some (.ok (), update objects id (some next)) := by
  simp [Exec.returns, call, run_object here, ran]

theorem returns_call_throw {objects : Objects T} {id : Nat} {buffer : Buffer T}
    {body : Buffer.Method T Unit} {what : String} (here : objects id = some buffer)
    (ran : body.run buffer = .error (.throw what) buffer) :
    (call id body).returns objects = some (.error what, objects) := by
  have same : update objects id (some buffer) = objects := by
    rw [← here, Function.update_eq_self]
  simp [Exec.returns, call, run_object here, ran, same]

end Objects

/-- The buffer `id` is what `how` says, and the others are what they were. -/
def Changed (objects next : Objects T) (id : Nat) (how : Buffer T → Prop) : Prop :=
  ∃ buffer, next = update objects id (some buffer) ∧ how buffer

/-- A call on the buffer `id`: it throws and changes nothing when it is refused. -/
def Answers (objects next : Objects T) (ended : Except String Unit) (id : Nat)
    (refused : Buffer T → Prop) (how : Buffer T → Buffer T → Prop) : Prop :=
  ∀ buffer, objects id = some buffer →
    (refused buffer →
      ended = .error "Cannot resize buffer which does not own its storage." ∧ next = objects) ∧
    (¬ refused buffer → ended = .ok () ∧ Changed objects next id (how buffer))

theorem Objects.WellFormed.answers {objects : Objects T} (wellFormed : objects.WellFormed)
    {id : Nat} {buffer : Buffer T} (here : objects id = some buffer)
    {body : Buffer.Method T Unit} {refused : Buffer T → Prop}
    {how : Buffer T → Buffer T → Prop}
    (throws : refused buffer → body.run buffer =
      .error (.throw "Cannot resize buffer which does not own its storage.") buffer)
    (works : ¬ refused buffer →
      ∃ next, body.run buffer = .ok () next ∧ next.WellFormed ∧ how buffer next) :
    ∃ ended next, (Objects.call id body).returns objects = some (ended, next) ∧
      Answers objects next ended id refused how ∧ next.WellFormed := by
  by_cases refuses : refused buffer
  · refine ⟨_, _, Objects.returns_call_throw here (throws refuses), ?_, wellFormed⟩
    intro other there
    cases here.symm.trans there
    exact ⟨fun _ => ⟨rfl, rfl⟩, fun allowed => absurd refuses allowed⟩
  · obtain ⟨next, ran, sound, done⟩ := works refuses
    refine ⟨_, _, Objects.returns_call_ok here ran, ?_, wellFormed.update id sound⟩
    intro other there
    cases here.symm.trans there
    exact ⟨fun refused => absurd refused refuses, fun _ => ⟨rfl, next, rfl, done⟩⟩

namespace Op

/-- What a program has to see to: the buffers exist, a buffer is not moved to or appended to
itself, a size that is asked for is positive and the sum of sizes is a `size_t`. -/
def Allowed (objects : Objects T) : Op T → Prop
  | ofLength _ _ | ofMemory _ _ | ofCopy _ _ => True
  | ofBuffer id other | ofMoved id other => id ≠ other ∧ (objects other).isSome
  | move id other => id ≠ other ∧ (objects id).isSome ∧ (objects other).isSome
  | copy id other | swap id other => (objects id).isSome ∧ (objects other).isSome
  | resize id newCapacity _ => (objects id).isSome ∧ 0 < newCapacity
  | setCapacity id _ _ | assign id _ | clear id => (objects id).isSome
  | append id data => ∃ buffer ∈ objects id, buffer.used + data.length < 2 ^ 64
  | appendValue id _ => ∃ buffer ∈ objects id, buffer.used + 1 < 2 ^ 64
  | appendBuffer id other =>
      id ≠ other ∧
        ∃ buffer ∈ objects id, ∃ source ∈ objects other, buffer.used + source.used < 2 ^ 64

instance (objects : Objects T) (op : Op T) : Decidable (op.Allowed objects) :=
  match op with
  | ofLength _ _ | ofMemory _ _ | ofCopy _ _ => inferInstanceAs (Decidable True)
  | ofBuffer _ _ | ofMoved _ _ | move _ _ | copy _ _ | swap _ _ | resize _ _ _
  | appendBuffer _ _ => inferInstanceAs (Decidable (_ ∧ _))
  | setCapacity id _ _ | assign id _ | clear id =>
      inferInstanceAs (Decidable ((objects id).isSome = true))
  | append id data =>
      inferInstanceAs (Decidable (∃ buffer ∈ objects id, buffer.used + data.length < 2 ^ 64))
  | appendValue id _ =>
      inferInstanceAs (Decidable (∃ buffer ∈ objects id, buffer.used + 1 < 2 ^ 64))

open Objects in
theorem does_append [Inhabited T] {objects : Objects T} (wellFormed : objects.WellFormed) {id : Nat}
    {buffer : Buffer T} (here : objects id = some buffer) {data : List T}
    (fits : buffer.used + data.length < 2 ^ 64) :
    ∃ ended next, (call id (Buffer.append data)).returns objects = some (ended, next) ∧
      Answers objects next ended id (fun buffer => buffer.ownMem = false ∧ 0 < data.length)
        (fun buffer changed => changed.elements = buffer.elements ++ data) ∧
      next.WellFormed := by
  have sound := wellFormed id buffer here
  refine wellFormed.answers here (fun refused => run_append_of_foreign refused.1 refused.2)
    fun granted => ?_
  by_cases positive : 0 < data.length
  · have owned : buffer.ownMem = true := by simpa [positive] using granted
    exact ⟨_, run_append_of_owned sound owned positive fits, sound.extended data,
      elements_extended sound data⟩
  · obtain rfl := List.eq_nil_of_length_eq_zero (Nat.eq_zero_of_not_pos positive)
    exact ⟨buffer, by simp [Buffer.append], sound, (List.append_nil _).symm⟩

open Objects in
theorem does_assign [Inhabited T] {objects : Objects T} (wellFormed : objects.WellFormed) {id : Nat}
    {buffer : Buffer T} (here : objects id = some buffer) (data : List T) :
    ∃ ended next, (call id (Buffer.assign data)).returns objects = some (ended, next) ∧
      Answers objects next ended id
        (fun buffer => buffer.ownMem = false ∧ buffer.capacity < data.length)
        (fun buffer changed =>
          if data = [] then changed = buffer else changed.elements = data) ∧
      next.WellFormed := by
  have sound := wellFormed id buffer here
  refine wellFormed.answers here (fun refused => run_assign_of_foreign refused.1 refused.2)
    fun granted => ?_
  by_cases empty : data = []
  · subst empty
    exact ⟨buffer, by simp [Buffer.assign], sound, by simp⟩
  · have room : buffer.ownMem = true ∨ data.length ≤ buffer.capacity := by
      by_cases long : buffer.capacity < data.length
      · exact .inl (by simpa [long] using granted)
      · exact .inr (by omega)
    obtain ⟨next, ran, kept, assigned⟩ := run_assign sound (List.length_pos_iff.mpr empty) room
    exact ⟨next, ran, kept, by rw [if_neg empty, assigned]⟩

/-- Both copies put the elements in a buffer that owns them. -/
theorem does_ofBuffer {objects : Objects T} (wellFormed : objects.WellFormed) {id other : Nat}
    {source : Buffer T} (there : objects other = some source) {body : Objects.Method T Unit}
    (ran : body.returns objects = some (.ok (), update objects id (some (.ofBuffer source)))) :
    ∃ ended next, body.returns objects = some (ended, next) ∧
      (∀ source, objects other = some source →
        ended = .ok () ∧
        Changed objects next id fun buffer => buffer.elements = source.elements) ∧
      next.WellFormed := by
  refine ⟨_, _, ran, ?_, wellFormed.update id (wellFormed other source there).ofBuffer⟩
  intro again same
  cases there.symm.trans same
  exact ⟨rfl, _, rfl, elements_ofBuffer source⟩

open Objects in
/-- Both moves hand the elements over and leave an empty buffer. -/
theorem does_takeOver {objects : Objects T} (wellFormed : objects.WellFormed) {id other : Nat}
    (there : (objects other).isSome) :
    ∃ ended next, (takeOver id other).returns objects = some (ended, next) ∧
      (∀ source, objects other = some source →
        ended = .ok () ∧ ∃ middle,
          Changed objects middle id (fun buffer => buffer.elements = source.elements) ∧
          Changed middle next other (fun buffer => buffer.elements = [])) ∧
      next.WellFormed := by
  obtain ⟨source, there⟩ := Option.isSome_iff_exists.mp there
  have ran : (takeOver id other).returns objects =
      some (.ok (), update (update objects id (some source)) other (some (moved T))) := by
    simp [Exec.returns, takeOver, run_object there]
  refine ⟨_, _, ran, ?_,
    (wellFormed.update id (wellFormed other source there)).update other wellFormed_moved⟩
  intro again same
  cases there.symm.trans same
  exact ⟨rfl, _, ⟨_, rfl, rfl⟩, _, rfl, rfl⟩

variable [Inhabited T] [Zero T]

def step (objects : Objects T) (op : Op T) : Option (Objects T) :=
  if op.Allowed objects then (op.run.returns objects).map Prod.snd else none

def Does (objects next : Objects T) (ended : Except String Unit) : Op T → Prop
  | ofLength id length =>
      ended = .ok () ∧ Changed objects next id fun buffer => buffer.elements.length = length
  | ofMemory id memory | ofCopy id memory =>
      ended = .ok () ∧ Changed objects next id fun buffer => buffer.elements = memory
  | ofBuffer id other | copy id other =>
      ∀ source, objects other = some source →
        ended = .ok () ∧
        Changed objects next id fun buffer => buffer.elements = source.elements
  | ofMoved id other | move id other =>
      ∀ source, objects other = some source →
        ended = .ok () ∧ ∃ middle,
          Changed objects middle id (fun buffer => buffer.elements = source.elements) ∧
          Changed middle next other (fun buffer => buffer.elements = [])
  | resize id newCapacity preserveContent =>
      Answers objects next ended id (fun buffer => buffer.ownMem = false) fun buffer changed =>
        changed.elements.length = newCapacity ∧
        (preserveContent = true → Keeps buffer.elements changed.elements)
  | setCapacity id newCapacity preserveContent =>
      Answers objects next ended id (fun buffer => buffer.ownMem = false) fun buffer changed =>
        changed.capacity = newCapacity ∧
        changed.elements.length = min buffer.elements.length newCapacity ∧
        (preserveContent = true → Keeps buffer.elements changed.elements)
  | assign id data =>
      Answers objects next ended id
        (fun buffer => buffer.ownMem = false ∧ buffer.capacity < data.length)
        fun buffer changed =>
          if data = [] then changed = buffer else changed.elements = data
  | append id data =>
      Answers objects next ended id (fun buffer => buffer.ownMem = false ∧ 0 < data.length)
        fun buffer changed => changed.elements = buffer.elements ++ data
  | appendValue id val =>
      Answers objects next ended id (fun buffer => buffer.ownMem = false)
        fun buffer changed => changed.elements = buffer.elements ++ [val]
  | appendBuffer id other =>
      ∀ source, objects other = some source →
        Answers objects next ended id
          (fun buffer => buffer.ownMem = false ∧ 0 < source.elements.length)
          fun buffer changed => changed.elements = buffer.elements ++ source.elements
  | swap id other =>
      ∀ first second, objects id = some first → objects other = some second →
        ended = .ok () ∧ next = update (update objects id (some second)) other (some first)
  | clear id =>
      Answers objects next ended id (fun _ => False)
        fun buffer changed => changed.elements = List.replicate buffer.elements.length 0

def Ends (objects : Objects T) (op : Op T) : Prop :=
  ∃ ended next, op.run.returns objects = some (ended, next) ∧
    op.Does objects next ended ∧ next.WellFormed

section Operations

open Objects

variable {objects : Objects T} {id other : Nat} {buffer source : Buffer T}

theorem ends_ofBuffer (wellFormed : objects.WellFormed) (there : objects other = some source) :
    (Op.ofBuffer id other).Ends objects := by
  apply does_ofBuffer wellFormed there
  simp [Exec.returns, Op.run, run_object there]

theorem ends_copy (wellFormed : objects.WellFormed) (here : objects id = some buffer)
    (there : objects other = some source) : (Op.copy id other).Ends objects := by
  by_cases same : id = other
  · subst same
    have ran : (Op.run (copy id id)).returns objects = some (.ok (), objects) := by
      simp [Exec.returns, Op.run]
    refine ⟨_, _, ran, fun again found => ⟨rfl, again, ?_, rfl⟩, wellFormed⟩
    rw [← found, Function.update_eq_self]
  · apply does_ofBuffer wellFormed there
    simp [Exec.returns, Op.run, same, run_object here, run_object there]

theorem ends_resize (wellFormed : objects.WellFormed) (here : objects id = some buffer)
    {newCapacity : Nat} (positive : 0 < newCapacity) (preserveContent : Bool) :
    (Op.resize id newCapacity preserveContent).Ends objects := by
  have sound := wellFormed id buffer here
  refine wellFormed.answers here run_resize_of_foreign fun owned => ?_
  rw [Bool.not_eq_false] at owned
  refine ⟨_, run_resize_of_owned newCapacity preserveContent sound owned positive,
    sound.resized _ _, length_elements_resized sound _ _, fun preserve => ?_⟩
  subst preserve
  exact keeps_resized sound newCapacity

theorem ends_setCapacity (wellFormed : objects.WellFormed) (here : objects id = some buffer)
    (newCapacity : Nat) (preserveContent : Bool) :
    (Op.setCapacity id newCapacity preserveContent).Ends objects := by
  have sound := wellFormed id buffer here
  refine wellFormed.answers here run_setCapacity_of_foreign fun owned => ?_
  rw [Bool.not_eq_false] at owned
  obtain ⟨next, ran, kept, capacity, used, keeps⟩ :=
    run_setCapacity_of_owned newCapacity preserveContent sound owned
  refine ⟨next, ran, kept, capacity, ?_, keeps⟩
  rw [kept.length_elements, used, sound.length_elements]

theorem ends_appendValue (wellFormed : objects.WellFormed) (here : objects id = some buffer)
    (fits : buffer.used + 1 < 2 ^ 64) (val : T) : (Op.appendValue id val).Ends objects := by
  have sound := wellFormed id buffer here
  refine wellFormed.answers here ?_ fun owned => ?_
  · intro foreign
    rw [appendValue_eq]
    exact run_append_of_foreign foreign Nat.one_pos
  · rw [Bool.not_eq_false] at owned
    rw [appendValue_eq]
    exact ⟨_, run_append_of_owned sound owned Nat.one_pos fits, sound.extended [val],
      elements_extended sound [val]⟩

theorem ends_appendBuffer (wellFormed : objects.WellFormed) (here : objects id = some buffer)
    (there : objects other = some source) (fits : buffer.used + source.used < 2 ^ 64) :
    (Op.appendBuffer id other).Ends objects := by
  have length := (wellFormed other source there).length_elements
  have ran : (Op.run (appendBuffer id other)).returns objects =
      (call id (Buffer.append source.elements)).returns objects := by
    simp [Exec.returns, Op.run, run_object there]
  have room : buffer.used + source.elements.length < 2 ^ 64 := by omega
  obtain ⟨ended, next, came, answers, kept⟩ := does_append wellFormed here room
  refine ⟨ended, next, ran.trans came, ?_, kept⟩
  intro again found
  cases there.symm.trans found
  exact answers

theorem ends_swap (wellFormed : objects.WellFormed) (here : objects id = some buffer)
    (there : objects other = some source) : (Op.swap id other).Ends objects := by
  have ran : (Op.run (swap id other)).returns objects =
      some (.ok (), update (update objects id (some source)) other (some buffer)) := by
    simp [Exec.returns, Op.run, run_object here, run_object there]
  refine ⟨_, _, ran, ?_, (wellFormed.update id (wellFormed other source there)).update other
    (wellFormed id buffer here)⟩
  intro one another same found
  cases here.symm.trans same
  cases there.symm.trans found
  exact ⟨rfl, rfl⟩

theorem ends_clear (wellFormed : objects.WellFormed) (here : objects id = some buffer) :
    (Op.clear id).Ends objects := by
  have sound := wellFormed id buffer here
  refine wellFormed.answers here False.elim fun _ => ?_
  obtain ⟨next, ran, kept, zeros⟩ := run_clear sound
  exact ⟨next, ran, kept, by rw [zeros, sound.length_elements]⟩

theorem ends_of_allowed (wellFormed : objects.WellFormed) {op : Op T}
    (allowed : op.Allowed objects) : op.Ends objects := by
  cases op with
  | ofLength id length =>
      refine ⟨_, _, rfl, ⟨rfl, _, rfl, ?_⟩, wellFormed.update id (wellFormed_ofLength length)⟩
      exact (wellFormed_ofLength length).length_elements
  | ofMemory id memory =>
      exact ⟨_, _, rfl, ⟨rfl, _, rfl, elements_ofMemory memory⟩,
        wellFormed.update id (wellFormed_ofMemory memory)⟩
  | ofCopy id memory =>
      exact ⟨_, _, rfl, ⟨rfl, _, rfl, elements_ofCopy memory⟩,
        wellFormed.update id (wellFormed_ofCopy memory)⟩
  | ofBuffer id other =>
      obtain ⟨source, there⟩ := Option.isSome_iff_exists.mp allowed.2
      exact ends_ofBuffer wellFormed there
  | ofMoved id other => exact does_takeOver wellFormed allowed.2
  | move id other => exact does_takeOver wellFormed allowed.2.2
  | copy id other =>
      obtain ⟨buffer, here⟩ := Option.isSome_iff_exists.mp allowed.1
      obtain ⟨source, there⟩ := Option.isSome_iff_exists.mp allowed.2
      exact ends_copy wellFormed here there
  | swap id other =>
      obtain ⟨buffer, here⟩ := Option.isSome_iff_exists.mp allowed.1
      obtain ⟨source, there⟩ := Option.isSome_iff_exists.mp allowed.2
      exact ends_swap wellFormed here there
  | resize id newCapacity preserveContent =>
      obtain ⟨buffer, here⟩ := Option.isSome_iff_exists.mp allowed.1
      exact ends_resize wellFormed here allowed.2 preserveContent
  | setCapacity id newCapacity preserveContent =>
      obtain ⟨buffer, here⟩ := Option.isSome_iff_exists.mp allowed
      exact ends_setCapacity wellFormed here newCapacity preserveContent
  | assign id data =>
      obtain ⟨buffer, here⟩ := Option.isSome_iff_exists.mp allowed
      exact does_assign wellFormed here data
  | append id data =>
      obtain ⟨buffer, here, fits⟩ := allowed
      exact does_append wellFormed here fits
  | appendValue id val =>
      obtain ⟨buffer, here, fits⟩ := allowed
      exact ends_appendValue wellFormed here fits val
  | appendBuffer id other =>
      obtain ⟨-, buffer, here, source, there, fits⟩ := allowed
      exact ends_appendBuffer wellFormed here there fits
  | clear id =>
      obtain ⟨buffer, here⟩ := Option.isSome_iff_exists.mp allowed
      exact ends_clear wellFormed here

end Operations

theorem keep_step {objects next : Objects T} {op : Op T} (wellFormed : objects.WellFormed)
    (stepped : step objects op = some next) : next.WellFormed := by
  unfold step at stepped
  split at stepped
  · rename_i allowed
    obtain ⟨ended, last, ran, -, kept⟩ := ends_of_allowed wellFormed allowed
    rw [ran] at stepped
    cases stepped
    exact kept
  · contradiction

end Op

section Lists

variable [Inhabited T] [Zero T]

/-- Whatever a program has done with its buffers, each holds no more than its capacity and the
next call makes of its elements what `Does` says of lists. -/
theorem buffers_are_lists {run : List (Op T)} {objects : Objects T}
    (reached : Runs.exec Op.step (fun _ => none) run = some objects) :
    (∀ id buffer, objects id = some buffer →
      buffer.used ≤ buffer.capacity ∧ buffer.elements.length = buffer.used) ∧
    ∀ op : Op T, op.Allowed objects →
      ∃ ended next, op.run.returns objects = some (ended, next) ∧ op.Does objects next ended := by
  have wellFormed : objects.WellFormed :=
    Runs.exec_keeps Objects.WellFormed (fun _ _ _ => Op.keep_step) (fun _ _ none => by cases none)
      reached
  constructor
  · intro id buffer there
    have sound := wellFormed id buffer there
    exact ⟨sound.used_le, sound.length_elements⟩
  · intro op allowed
    obtain ⟨ended, next, ran, does, -⟩ := Op.ends_of_allowed wellFormed allowed
    exact ⟨ended, next, ran, does⟩

end Lists

/-- A buffer that is shrunk and grown again. -/
theorem buffers_are_lists_shrunk_and_grown :
    ∃ objects : Objects Nat,
      Runs.exec Op.step (fun _ => none)
        [.ofCopy 0 [1, 2, 3], .resize 0 2 true, .append 0 [4], .setCapacity 0 1 true,
          .resize 0 2 true] = some objects ∧
      (objects 0).map (fun buffer => buffer.elements.take 1) = some [1] ∧
      (∀ id buffer, objects id = some buffer →
        buffer.used ≤ buffer.capacity ∧ buffer.elements.length = buffer.used) ∧
      ∀ op : Op Nat, op.Allowed objects →
        ∃ ended next, op.run.returns objects = some (ended, next) ∧ op.Does objects next ended := by
  have reached : Runs.exec Op.step (fun _ => none)
      ([.ofCopy 0 [1, 2, 3], .resize 0 2 true, .append 0 [4], .setCapacity 0 1 true,
        .resize 0 2 true] : List (Op Nat)) = some _ := rfl
  exact ⟨_, reached, by decide, buffers_are_lists reached⟩

/-- Memory of the caller's that has no room for what it is assigned. -/
theorem assign_is_refused :
    ∃ objects : Objects Nat,
      Runs.exec Op.step (fun _ => none) [.ofMemory 0 [1]] = some objects ∧
      (Op.assign 0 [1, 2]).Allowed objects ∧
      (Op.assign 0 [1, 2]).run.returns objects =
        some (.error "Cannot resize buffer which does not own its storage.", objects) ∧
      (objects 0).map elements = some [1] :=
  ⟨_, rfl, rfl, Objects.returns_call_throw rfl rfl, by decide⟩

end Buffer

end TestReactor
