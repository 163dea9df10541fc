import TestReactor.NotificationCenter.Register

namespace TestReactor

namespace NotificationCenter

/-! What a removal promises: no callback of the entry is under way in any thread when it
takes effect, and none begins later. -/

/-- The event is a step of a callback of the entry. -/
def Event.Runs (id : Nat) : Event → Prop
  | .called other _ => other = id
  | .ended other => other = id
  | _ => False

namespace Register

open Function (update)

/-- Each entry has a number of its own, and callbacks are those of entries. -/
structure Sound (register : Register) : Prop where
  nodup : (register.entries.map Prod.fst).Nodup
  made : ∀ id ∈ register.entries.map Prod.fst, id < register.made
  running : ∀ id, register.running id → id ∈ register.entries.map Prod.fst

structure Gone (id : Nat) (register : Register) : Prop where
  made : id < register.made
  absent : id ∉ register.entries.map Prod.fst

inductive Steps (register : Register) : Event → Register → Prop
  | added (observer : Observer) :
      Steps register (.added register.made observer) { register with
        entries := register.entries ++ [(register.made, observer)], made := register.made + 1 }
  | removed (observer : Observer) (id : Nat) (found : register.find observer = some id)
      (idle : register.running id = false) :
      Steps register (.removed observer (some id)) { register with
        entries := register.entries.eraseP fun entry => observer.equals entry.2 }
  | called (id : Nat) (notification : Option SocketNotification)
      (listens : register.listens id notification) (idle : register.running id = false) :
      Steps register (.called id notification)
        { register with running := update register.running id true }
  | ended (id : Nat) (running : register.running id) :
      Steps register (.ended id) { register with running := update register.running id false }
  | nothing {event : Event} (silent : ∀ id, ¬ event.Runs id) : Steps register event register

section

variable {register next : Register} {event : Event} {id : Nat}

theorem eraseP_of_find_none {observer : Observer} (absent : register.find observer = none) :
    (register.entries.eraseP fun entry => observer.equals entry.2) = register.entries := by
  refine List.eraseP_of_forall_not ?_
  simpa [find] using absent

theorem steps_of_step (stepped : register.step event = some next) :
    Steps register event next := by
  cases event with
  | added id observer =>
      obtain ⟨rfl, result⟩ := Option.ite_none_right_eq_some.mp stepped
      cases result
      exact .added observer
  | removed observer found =>
      obtain ⟨⟨same, idle⟩, result⟩ := Option.ite_none_right_eq_some.mp stepped
      cases result
      cases found with
      | none =>
          rw [eraseP_of_find_none same]
          exact .nothing fun _ runs => runs
      | some id => exact .removed observer id same (by simpa using idle)
  | called id notification =>
      obtain ⟨⟨listens, idle⟩, result⟩ := Option.ite_none_right_eq_some.mp stepped
      cases result
      exact .called id notification listens (by simpa using idle)
  | ended id =>
      obtain ⟨running, result⟩ := Option.ite_none_right_eq_some.mp stepped
      cases result
      exact .ended id running
  | passed id notification =>
      obtain ⟨-, result⟩ := Option.ite_none_left_eq_some.mp stepped
      cases result
      exact .nothing fun _ runs => runs
  | answeredHas _ _ | answeredAny _ | counted _ | copied _ =>
      obtain ⟨-, result⟩ := Option.ite_none_right_eq_some.mp stepped
      cases result
      exact .nothing fun _ runs => runs

theorem mem_of_listens {notification : Option SocketNotification}
    (listens : register.listens id notification) : id ∈ register.entries.map Prod.fst := by
  obtain ⟨entry, member, hears⟩ := List.any_eq_true.mp listens
  rw [Bool.and_eq_true, decide_eq_true_eq] at hears
  exact hears.1 ▸ List.mem_map_of_mem member

theorem entries_removed {observer : Observer} (found : register.find observer = some id) :
    ∃ first second, register.entries.map Prod.fst = first ++ id :: second ∧
      (register.entries.eraseP fun entry => observer.equals entry.2).map Prod.fst =
        first ++ second := by
  obtain ⟨entry, first_equal, rfl⟩ := Option.map_eq_some_iff.mp found
  obtain ⟨equal, first, second, split, others⟩ := List.find?_eq_some_iff_append.mp first_equal
  refine ⟨first.map Prod.fst, second.map Prod.fst, by simp [split], ?_⟩
  have erased := List.eraseP_cons_of_pos (l := second)
    (p := fun entry => observer.equals entry.2) equal
  rw [split, List.eraseP_append_right _ (by simpa using others), erased, List.map_append]

theorem Sound.step (sound : register.Sound) (steps : Steps register event next) :
    next.Sound := by
  cases steps with
  | added observer =>
      constructor
      · simp only [List.map_append, List.map_cons, List.map_nil]
        refine List.nodup_append.mpr ⟨sound.nodup, List.nodup_singleton _, ?_⟩
        rintro id member _ single rfl
        exact Nat.lt_irrefl _ (List.mem_singleton.mp single ▸ sound.made id member)
      · intro id member
        rw [List.map_append, List.mem_append] at member
        rcases member with before | new
        · exact Nat.lt_succ_of_lt (sound.made id before)
        · exact List.mem_singleton.mp new ▸ Nat.lt_succ_self _
      · intro id running
        rw [List.map_append]
        exact List.mem_append_left _ (sound.running id running)
  | removed observer id found idle =>
      obtain ⟨first, second, before, after⟩ := entries_removed found
      have kept : (first ++ second).Sublist (register.entries.map Prod.fst) :=
        before ▸ (List.sublist_cons_self id second).append_left first
      refine ⟨after ▸ sound.nodup.sublist kept, fun other member => ?_, fun other running => ?_⟩
      · exact sound.made other (kept.subset (after ▸ member))
      · have different : other ≠ id := by
          rintro rfl
          rw [running] at idle
          contradiction
        have member := sound.running other running
        rw [before] at member
        rw [after]
        simpa [different] using member
  | called id notification listens idle =>
      refine ⟨sound.nodup, sound.made, fun other running => ?_⟩
      rcases eq_or_ne other id with rfl | different
      · exact mem_of_listens listens
      · exact sound.running other (by simpa [different] using running)
  | ended id _ =>
      refine ⟨sound.nodup, sound.made, fun other running => ?_⟩
      rcases eq_or_ne other id with rfl | different
      · simp at running
      · exact sound.running other (by simpa [different] using running)
  | nothing => exact sound

theorem Sound.gone (sound : register.Sound) {observer : Observer}
    (stepped : register.step (.removed observer (some id)) = some next) : Gone id next := by
  obtain ⟨⟨found, -⟩, result⟩ := Option.ite_none_right_eq_some.mp stepped
  cases result
  obtain ⟨first, second, before, after⟩ := entries_removed found
  have nodup := sound.nodup
  rw [before] at nodup
  refine ⟨sound.made id (by simp [before]), ?_⟩
  rw [after]
  exact (List.nodup_middle.mp nodup).notMem

theorem Gone.step (gone : Gone id register) (steps : Steps register event next) :
    Gone id next := by
  cases steps with
  | added observer =>
      refine ⟨Nat.lt_succ_of_lt gone.made, ?_⟩
      rw [List.map_append, List.mem_append]
      rintro (before | new)
      · exact gone.absent before
      · exact Nat.ne_of_lt gone.made (List.mem_singleton.mp new)
  | removed observer other =>
      refine ⟨gone.made, fun member => gone.absent ?_⟩
      exact List.Sublist.subset (List.eraseP_sublist.map Prod.fst) member
  | called | ended => exact ⟨gone.made, gone.absent⟩
  | nothing => exact gone

theorem Gone.silent (gone : Gone id register) (sound : register.Sound)
    (steps : Steps register event next) : ¬ event.Runs id := by
  cases steps with
  | called other notification listens =>
      rintro rfl
      exact gone.absent (mem_of_listens listens)
  | ended other running =>
      rintro rfl
      exact gone.absent (sound.running other running)
  | added | removed => exact fun runs => runs
  | nothing silent => exact silent id

theorem Gone.exec (gone : Gone id register) (sound : register.Sound) {events : List Event}
    {last : Register} (reached : Runs.exec Register.step register events = some last) :
    ∀ event ∈ events, ¬ event.Runs id := by
  induction events generalizing register with
  | nil => exact fun _ member => absurd member List.not_mem_nil
  | cons event rest induction =>
      obtain ⟨next, stepped, reached⟩ := Option.bind_eq_some_iff.mp reached
      have steps := steps_of_step stepped
      exact List.forall_mem_cons.mpr ⟨gone.silent sound steps,
        induction (gone.step steps) (sound.step steps) reached⟩

theorem sound_empty : Register.empty.Sound :=
  ⟨List.nodup_nil, fun _ member => absurd member List.not_mem_nil,
    fun _ running => absurd running Bool.false_ne_true⟩

theorem Sound.exec (sound : register.Sound) {events : List Event}
    (reached : Runs.exec Register.step register events = some next) : next.Sound :=
  Runs.exec_keeps Register.Sound
    (fun _ _ _ sound stepped => sound.step (steps_of_step stepped)) sound reached

end

end Register

section

variable {θ : Type} [DecidableEq θ]

end

end NotificationCenter

end TestReactor
