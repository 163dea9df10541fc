import TestReactor.WeakestPre

namespace TestReactor

/-! Programs that keep an invariant while their state only moves along an order, so
that what a part of the program has read of the state stays true as far as the order
lets it. -/

structure Guarantee (σ : Type) where
  holds : σ → Prop
  leads : σ → σ → Prop
  ended : Stop → σ → Prop
  refl : ∀ state, leads state state
  trans : ∀ {first second third}, leads first second → leads second third →
    leads first third

namespace Guarantee

variable (guarantee : Guarantee σ)

/-- An exception keeps the guarantee; what else ends the program only has to satisfy
`ended`. -/
def exits (start : σ) (stop : Stop) (next : σ) : Prop :=
  match stop with
  | .throw _ => guarantee.holds next ∧ guarantee.leads start next
  | _ => guarantee.ended stop next

def Ensures (body : Exec σ α) (state : σ) : Prop :=
  Exec.ends body (fun _ next => guarantee.holds next ∧ guarantee.leads state next)
    (guarantee.exits state) state

/-- `body` ensures the guarantee wherever `since` has led to. -/
def Keeps (since : σ) (body : Exec σ α) : Prop :=
  ∀ state, guarantee.leads since state → guarantee.holds state → guarantee.Ensures body state

variable {guarantee} {state : σ}

theorem exits_of_leads {middle next : σ} {stop : Stop}
    (leads : guarantee.leads state middle) (passed : guarantee.exits middle stop next) :
    guarantee.exits state stop next := by
  cases stop with
  | throw what => exact ⟨passed.1, guarantee.trans leads passed.2⟩
  | blocked | deadlock | fault | abort => exact passed

theorem ensures_pure (value : α) (holds : guarantee.holds state) :
    guarantee.Ensures (pure value) state := ⟨holds, guarantee.refl state⟩

theorem ensures_throw (what : String) (holds : guarantee.holds state) :
    guarantee.Ensures (Exec.raise (.throw what) : Exec σ α) state :=
  ⟨holds, guarantee.refl state⟩

theorem Ensures.bind {body : Exec σ α} {rest : α → Exec σ β}
    (first : guarantee.Ensures body state)
    (second : ∀ value, guarantee.Keeps state (rest value)) :
    guarantee.Ensures (body >>= rest) state := by
  rw [Ensures, Exec.ends_bind]
  refine Exec.ends_mono first ?_ (fun _ _ passed => passed)
  rintro value middle ⟨holds, leads⟩
  refine Exec.ends_mono (second value middle leads holds) ?_ ?_
  · rintro _ next ⟨kept, further⟩
    exact ⟨kept, guarantee.trans leads further⟩
  · intro stop next passed
    exact exits_of_leads leads passed

theorem ensures_bind_ok {body : Exec σ α} {rest : α → Exec σ β} {value : α}
    (ran : body.run state = .ok value state)
    (second : guarantee.Ensures (rest value) state) :
    guarantee.Ensures (body >>= rest) state := by
  rw [Ensures, Exec.ends_bind, Exec.ends_of_ok ran]
  exact second

theorem Ensures.catching {body : Exec σ α} {handler : String → Exec σ α}
    (first : guarantee.Ensures body state)
    (second : ∀ what, guarantee.Keeps state (handler what)) :
    guarantee.Ensures (Exec.catching body handler) state := by
  rw [Ensures, Exec.ends_catching]
  refine Exec.ends_mono first (fun _ _ kept => kept) ?_
  intro stop middle passed
  cases stop with
  | throw what =>
      obtain ⟨holds, leads⟩ := passed
      refine Exec.ends_mono (second what middle leads holds) ?_ ?_
      · rintro _ next ⟨kept, further⟩
        exact ⟨kept, guarantee.trans leads further⟩
      · intro stop next passed
        exact exits_of_leads leads passed
  | blocked | deadlock | fault | abort => exact passed

theorem ensures_when {condition : Bool} {body : Exec σ Unit} (holds : guarantee.holds state)
    (first : condition = true → guarantee.Ensures body state) :
    guarantee.Ensures (Exec.when condition body) state := by
  cases condition with
  | true => exact first rfl
  | false => exact ensures_pure () holds

theorem ensures_forEach {items : List ι} {body : ι → Exec σ Unit}
    (holds : guarantee.holds state)
    (keeps : ∀ item ∈ items, guarantee.Keeps state (body item)) :
    guarantee.Ensures (Exec.forEach items body) state := by
  refine Exec.ends_forEach (fun next => guarantee.holds next ∧ guarantee.leads state next)
    ⟨holds, guarantee.refl state⟩ ?_
  rintro item member middle ⟨kept, leads⟩
  refine Exec.ends_mono (keeps item member middle leads kept) ?_ ?_
  · rintro _ next ⟨again, further⟩
    exact ⟨again, guarantee.trans leads further⟩
  · intro stop next passed
    exact exits_of_leads leads passed

end Guarantee

end TestReactor
