import DebugRegisters.Proofs.SlotTable.Room

/-!
# Slots that come to stand otherwise

A table some changes later, compared with an earlier one slot by slot: a slot has
kept its point and its handle, or it was free or was given up, and is free now or
was taken anew.
-/

set_option autoImplicit false

namespace DebugRegisters.SlotTable

/-- Slots of `table` stand as in `former`, but for their references, or were free
or `given` up with their points, and are free or `fresh` now. -/
def Becomes (given : Nat → EncodedPoint → Prop) (fresh : Nat → Slot → Prop)
    (former table : SlotTable) : Prop :=
  ∀ index slot, table.get? index = some slot → ∃ before, former.get? index = some before ∧
    (slot.point = before.point ∧ slot.handle = before.handle ∨
      (∀ point, before.point = some point → given index point) ∧ (slot = .free ∨ fresh index slot))

variable {given : Nat → EncodedPoint → Prop} {fresh : Nat → Slot → Prop}
  {former table : SlotTable} {index : Nat}

theorem Becomes.refl (given : Nat → EncodedPoint → Prop) (fresh : Nat → Slot → Prop)
    (table : SlotTable) : Becomes given fresh table table :=
  fun _ slot there => ⟨slot, there, .inl ⟨rfl, rfl⟩⟩

theorem Becomes.mono {more : Nat → EncodedPoint → Prop} {wider : Nat → Slot → Prop}
    (becomes : Becomes given fresh former table)
    (also : ∀ index point, given index point → more index point)
    (loose : ∀ index slot, fresh index slot → wider index slot) :
    Becomes more wider former table := by
  intro index slot there
  obtain ⟨before, found, same | ⟨gave, isFree | new⟩⟩ := becomes index slot there
  · exact ⟨before, found, .inl same⟩
  · exact ⟨before, found, .inr ⟨fun point holds => also index point (gave point holds), .inl isFree⟩⟩
  · exact ⟨before, found,
      .inr ⟨fun point holds => also index point (gave point holds), .inr (loose index slot new)⟩⟩

theorem get?_modify_cases {change : Slot → Slot} {position : Nat} {slot : Slot}
    (there : (table.modify index change).get? position = some slot) :
    (position = index ∧ ∃ before, table.get? index = some before ∧ slot = change before) ∨
      (position ≠ index ∧ table.get? position = some slot) := by
  by_cases here : position = index
  · subst here
    rw [get?_modify_self] at there
    obtain ⟨before, found, rfl⟩ := Option.map_eq_some_iff.mp there
    exact .inl ⟨rfl, before, found, rfl⟩
  · rw [get?_modify_of_ne _ _ here] at there
    exact .inr ⟨here, there⟩

theorem Becomes.recount (becomes : Becomes given fresh former table)
    (loose : ∀ index slot references, fresh index slot → fresh index { slot with references })
    (index : Nat) {count : Slot → Nat}
    (counted : ∀ slot, table.get? index = some slot → slot ≠ .free) :
    Becomes given fresh former
      (table.modify index fun slot => { slot with references := count slot }) := by
  intro position slot there
  rcases get?_modify_cases there with ⟨rfl, before, found, rfl⟩ | ⟨_, found⟩
  · obtain ⟨first, listed, same | ⟨gave, isFree | new⟩⟩ := becomes _ before found
    · exact ⟨first, listed, .inl same⟩
    · exact absurd isFree (counted before found)
    · exact ⟨first, listed, .inr ⟨gave, .inr (loose _ _ _ new)⟩⟩
  · exact becomes position slot found

/-- A slot that is free or given up with its point may be replaced. -/
theorem Becomes.replace (becomes : Becomes given fresh former table) {slot : Slot}
    (there : table.get? index = some slot)
    (gives : ∀ point, slot.point = some point → given index point)
    {new : Slot} (fine : new = .free ∨ fresh index new) :
    Becomes given fresh former (table.modify index fun _ => new) := by
  intro position now placed
  rcases get?_modify_cases placed with ⟨rfl, before, found, rfl⟩ | ⟨_, found⟩
  · rw [there] at found
    cases found
    obtain ⟨first, listed, ⟨same, _⟩ | ⟨gave, _⟩⟩ := becomes _ slot there
    · exact ⟨first, listed, .inr ⟨fun point holds => gives point (same.trans holds), fine⟩⟩
    · exact ⟨first, listed, .inr ⟨gave, fine⟩⟩
  · exact becomes position now found

/-- A slot that holds the same point as often as before stands as before. -/
theorem Orderly.eq_of_contents {bank : RegisterBank} {capacity : Nat}
    (orderly : table.Orderly bank capacity) (earlier : former.Orderly bank capacity)
    (contents : table.contents = former.contents)
    {slot before : Slot} (there : table.get? index = some slot)
    (found : former.get? index = some before) (points : slot.point = before.point)
    (handles : slot.handle = before.handle) : slot = before := by
  cases holds : slot.point with
  | none =>
      rw [orderly.kept.eq_free there holds, earlier.kept.eq_free found (points ▸ holds)]
  | some point =>
      have references : slot.references = before.references := by
        rw [← orderly.count_contents there holds, contents]
        exact earlier.count_contents found (points ▸ holds)
      obtain ⟨_, _, _⟩ := slot
      obtain ⟨_, _, _⟩ := before
      cases points
      cases references
      cases handles
      rfl

end DebugRegisters.SlotTable
