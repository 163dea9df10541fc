import Mathlib.Logic.Equiv.Basic

namespace TestReactor

/-- Blocks by address.  From `next` on no address has been given out. -/
structure Heap (β : Type) where
  block : Nat → Option β
  next : Nat

namespace Heap

open Function (update)

variable {β ι : Type}

def empty : Heap β := ⟨fun _ => none, 0⟩

def alloc (heap : Heap β) (block : β) : Heap β where
  block := update heap.block heap.next (some block)
  next := heap.next + 1

def release (heap : Heap β) (address : Nat) : Heap β :=
  { heap with block := update heap.block address none }

def write (heap : Heap β) (address : Nat) (block : β) : Heap β :=
  { heap with block := update heap.block address (some block) }

section Lookup

variable (heap : Heap β) {address other : Nat} (block : β)

@[simp] theorem next_alloc : (heap.alloc block).next = heap.next + 1 := rfl

@[simp] theorem next_release : (heap.release address).next = heap.next := rfl

@[simp] theorem next_write : (heap.write address block).next = heap.next := rfl

@[simp] theorem block_alloc_self : (heap.alloc block).block heap.next = some block :=
  Function.update_self ..

theorem block_alloc_of_ne (different : other ≠ heap.next) :
    (heap.alloc block).block other = heap.block other := Function.update_of_ne different ..

@[simp] theorem block_release_self : (heap.release address).block address = none :=
  Function.update_self ..

theorem block_release_of_ne (different : other ≠ address) :
    (heap.release address).block other = heap.block other := Function.update_of_ne different ..

@[simp] theorem block_write_self : (heap.write address block).block address = some block :=
  Function.update_self ..

theorem block_write_of_ne (different : other ≠ address) :
    (heap.write address block).block other = heap.block other :=
  Function.update_of_ne different ..

theorem write_alloc (first : β) :
    (heap.alloc first).write heap.next block = heap.alloc block := by
  simp only [write, alloc, Function.update_idem]

theorem release_alloc (different : address ≠ heap.next) :
    (heap.alloc block).release address = (heap.release address).alloc block := by
  simp only [release, alloc, Function.update_comm different]

end Lookup

/-- Who holds which address: each that is held has its block and one holder, and no block
that is `due` back is without a holder. -/
structure Held (heap : Heap β) (due : β → Prop) (holds : ι → Option Nat) : Prop where
  fresh : ∀ address, heap.next ≤ address → heap.block address = none
  there : ∀ holder address, holds holder = some address → ∃ block, heap.block address = some block
  once : ∀ holder other address, holds holder = some address → holds other = some address →
    holder = other
  kept : ∀ address block, heap.block address = some block → due block →
    ∃ holder, holds holder = some address

namespace Held

variable {heap : Heap β} {due : β → Prop} {holds : ι → Option Nat} {holder other : ι}
  {address : Nat} {block : β}

theorem empty : (Heap.empty : Heap β).Held due fun _ : ι => none where
  fresh _ _ := rfl
  there _ _ held := nomatch held
  once _ _ _ held := nomatch held
  kept _ _ there := nomatch there

theorem lt_next (held : heap.Held due holds) (there : heap.block address = some block) :
    address < heap.next := by
  apply Nat.lt_of_not_le
  intro beyond
  cases (held.fresh address beyond).symm.trans there

theorem ne_next (held : heap.Held due holds) (holding : holds holder = some address) :
    address ≠ heap.next := by
  obtain ⟨block, there⟩ := held.there holder address holding
  exact Nat.ne_of_lt (held.lt_next there)

theorem write (held : heap.Held due holds) (there : heap.block address = some block) {next : β}
    (same : due next → due block) : (heap.write address next).Held due holds where
  fresh other beyond := by
    have below := held.lt_next there
    rw [block_write_of_ne heap next (by rw [next_write] at beyond; omega)]
    exact held.fresh other beyond
  there holder other holding := by
    by_cases here : other = address
    · exact ⟨next, here ▸ heap.block_write_self next⟩
    · rw [block_write_of_ne heap next here]
      exact held.there holder other holding
  once := held.once
  kept other found present owed := by
    by_cases here : other = address
    · subst here
      rw [block_write_self] at present
      cases present
      exact held.kept other block there (same owed)
    · rw [block_write_of_ne heap next here] at present
      exact held.kept other found present owed

variable [DecidableEq ι]

theorem alloc (held : heap.Held due holds) (free : holds holder = none) (block : β) :
    (heap.alloc block).Held due (update holds holder (some heap.next)) where
  fresh address beyond := by
    rw [next_alloc] at beyond
    rw [block_alloc_of_ne heap block (by omega)]
    exact held.fresh address (by omega)
  there other address holding := by
    by_cases own : other = holder
    · rw [own, Function.update_self] at holding
      cases holding
      exact ⟨block, heap.block_alloc_self block⟩
    · rw [Function.update_of_ne own] at holding
      rw [block_alloc_of_ne heap block (held.ne_next holding)]
      exact held.there other address holding
  once first second address holding again := by
    by_cases own : first = holder <;> by_cases own' : second = holder
    · rw [own, own']
    · rw [own, Function.update_self] at holding
      rw [Function.update_of_ne own'] at again
      cases holding
      exact absurd rfl (held.ne_next again)
    · rw [own', Function.update_self] at again
      rw [Function.update_of_ne own] at holding
      cases again
      exact absurd rfl (held.ne_next holding)
    · rw [Function.update_of_ne own] at holding
      rw [Function.update_of_ne own'] at again
      exact held.once first second address holding again
  kept address found present owed := by
    by_cases new : address = heap.next
    · exact ⟨holder, by rw [Function.update_self, new]⟩
    · rw [block_alloc_of_ne heap block new] at present
      obtain ⟨other, holding⟩ := held.kept address found present owed
      have own : other ≠ holder := by
        rintro rfl
        cases free.symm.trans holding
      exact ⟨other, by rw [Function.update_of_ne own, holding]⟩

theorem drop (held : heap.Held due holds) (holding : holds holder = some address)
    {after : Heap β} (next : after.next = heap.next)
    (same : ∀ other, other ≠ address → after.block other = heap.block other)
    (settled : ∀ block, after.block address = some block → ¬ due block) :
    after.Held due (update holds holder none) where
  fresh other beyond := by
    have below := held.lt_next (held.there holder address holding).choose_spec
    rw [next] at beyond
    rw [same other (by omega)]
    exact held.fresh other beyond
  there other found holding' := by
    by_cases own : other = holder
    · rw [own, Function.update_self] at holding'
      contradiction
    · rw [Function.update_of_ne own] at holding'
      have apart : found ≠ address := by
        rintro rfl
        exact own (held.once other holder found holding' holding)
      rw [same found apart]
      exact held.there other found holding'
  once first second found holding' again := by
    by_cases own : first = holder
    · rw [own, Function.update_self] at holding'
      contradiction
    by_cases own' : second = holder
    · rw [own', Function.update_self] at again
      contradiction
    rw [Function.update_of_ne own] at holding'
    rw [Function.update_of_ne own'] at again
    exact held.once first second found holding' again
  kept found block present owed := by
    have apart : found ≠ address := by
      rintro rfl
      exact settled block present owed
    rw [same found apart] at present
    obtain ⟨other, holding'⟩ := held.kept found block present owed
    have own : other ≠ holder := by
      rintro rfl
      cases holding.symm.trans holding'
      exact apart rfl
    exact ⟨other, by rw [Function.update_of_ne own, holding']⟩

theorem release (held : heap.Held due holds) (holding : holds holder = some address) :
    (heap.release address).Held due (update holds holder none) := by
  apply held.drop holding (next_release heap)
  · exact fun other different => heap.block_release_of_ne different
  · intro block present
    rw [block_release_self] at present
    contradiction

theorem abandon (held : heap.Held due holds) (holding : holds holder = some address)
    (there : heap.block address = some block) (settled : ¬ due block) :
    heap.Held due (update holds holder none) := by
  apply held.drop holding rfl
  · exact fun _ _ => rfl
  · intro found present
    cases there.symm.trans present
    exact settled

end Held

theorem Held.comp {heap : Heap β} {due : β → Prop} {holds : ι → Option Nat}
    (held : heap.Held due holds) (places : Equiv.Perm ι) :
    heap.Held due (holds ∘ places) where
  fresh := held.fresh
  there holder := held.there (places holder)
  once holder other address holding again :=
    places.injective (held.once _ _ address holding again)
  kept address block present owed := by
    obtain ⟨holder, holding⟩ := held.kept address block present owed
    exact ⟨places.symm holder, by simpa using holding⟩

end Heap

end TestReactor
