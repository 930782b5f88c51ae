import DebugRegisters.Proofs.SlotTable.Contents

/-!
# Taking back what was inserted

A point that was inserted and is removed again leaves the table as it was, slot
for slot, provided that every free slot looks the same. The kernel's part is the
same both ways: either no call is made, or the slot that was registered is the one
that is given up.
-/

set_option autoImplicit false

namespace DebugRegisters.SlotTable

variable {table : SlotTable} {point : EncodedPoint} {index : Nat}

theorem find?_eq_some_iff :
    table.find? point = some index ↔
      (∃ slot, table.get? index = some slot ∧ slot.point = some point) ∧
      ∀ earlier < index, ∀ slot, table.get? earlier = some slot → slot.point ≠ some point := by
  unfold find? get?
  rw [List.findIdx?_eq_some_iff_getElem]
  constructor
  · rintro ⟨inside, holds, before⟩
    refine ⟨⟨table.slots[index], List.getElem?_eq_getElem inside, by simpa [Slot.holds] using holds⟩,
      fun earlier lower slot there same => ?_⟩
    obtain ⟨_, rfl⟩ := List.getElem?_eq_some_iff.mp there
    simpa [Slot.holds, same] using before earlier lower
  · rintro ⟨⟨slot, there, holds⟩, before⟩
    obtain ⟨inside, rfl⟩ := List.getElem?_eq_some_iff.mp there
    refine ⟨inside, by simpa [Slot.holds] using holds, fun earlier lower => ?_⟩
    have other := before earlier lower _ (List.getElem?_eq_getElem (by omega))
    simpa [Slot.holds] using other

/-- A slot that passes for a point as it did before is not found in another place. -/
theorem find?_modify_of_holds {change : Slot → Slot}
    (keeps : ∀ slot, table.get? index = some slot → (change slot).holds point = slot.holds point) :
    (table.modify index change).find? point = table.find? point := by
  unfold find? modify
  unfold get? at keeps
  dsimp only
  generalize table.slots = slots at keeps
  induction slots generalizing index with
  | nil => simp
  | cons slot rest ih =>
      cases index with
      | zero => simp [List.findIdx?_cons, keeps slot rfl]
      | succ index =>
          rw [List.modify_succ_cons, List.findIdx?_cons, List.findIdx?_cons, ih]
          exact fun other there => keeps other (by simpa using there)

theorem find?_modify_of_point (change : Slot → Slot)
    (keeps : ∀ slot, (change slot).point = slot.point) (table : SlotTable) (index : Nat)
    (point : EncodedPoint) : (table.modify index change).find? point = table.find? point :=
  find?_modify_of_holds fun slot _ => by simp only [Slot.holds, keeps]

/-- A point put where it was not held before is found there. -/
theorem find?_modify_self (absent : table.find? point = none) {slot : Slot}
    (there : table.get? index = some slot) (change : Slot → Slot)
    (holds : (change slot).point = some point) :
    (table.modify index change).find? point = some index := by
  refine find?_eq_some_iff.mpr ⟨⟨change slot, by rw [get?_modify_self, there]; rfl, holds⟩, ?_⟩
  intro earlier lower other found
  rw [get?_modify_of_ne _ _ (Nat.ne_of_lt lower)] at found
  exact find?_eq_none_iff.mp absent earlier other found

/-- The slot that becomes free when a reference to `point` is taken away, if it is the
last one. -/
def lastSlot? (table : SlotTable) (point : EncodedPoint) : Option Slot :=
  ((table.find? point).bind table.get?).filter fun slot => slot.references ≤ 1

theorem lastSlot?_of_last {slot : Slot} (found : table.find? point = some index)
    (there : table.get? index = some slot) (last : slot.references ≤ 1) :
    table.lastSlot? point = some slot := by
  simp [lastSlot?, found, there, last]

theorem modify_modify (table : SlotTable) (index : Nat) (first second : Slot → Slot) :
    (table.modify index first).modify index second = table.modify index (second ∘ first) := by
  simp [modify, List.modify_modify_eq]

theorem modify_eq_self {change : Slot → Slot}
    (fixed : ∀ slot, table.get? index = some slot → change slot = slot) :
    table.modify index change = table := by
  unfold modify
  congr 1
  refine List.ext_getElem? fun position => ?_
  rw [List.getElem?_modify]
  cases there : table.slots[position]? with
  | none => rfl
  | some slot =>
      by_cases here : index = position
      · subst here
        simp [fixed slot there]
      · simp [here]

section Undoing

variable {σ τ : Type} {bank : RegisterBank} {taken restored : SlotTable} {state side : σ}
  {given left : τ} {register : σ → EncodedPoint → Except PointError (Option SlotHandle) × σ}
  {deregister : τ → Option SlotHandle → Except PointError Unit × τ} {insertion : Insertion}

/-- Removing a point right after its insertion. -/
theorem Inserts.undone (kept : table.IsKept bank)
    (inserted : table.Inserts point state register (.ok insertion, taken, side))
    {removal : Removal}
    (removed : taken.Removes point given deregister (.ok removal, restored, left)) :
    restored = table ∧
      (side = state ∧ left = given ∨
        ∃ handle, register state point = (.ok handle, side) ∧
          taken.lastSlot? point = some ⟨some point, 1, handle⟩ ∧
          deregister given handle = (.ok (), left)) := by
  cases inserted with
  | @shared index slot found there holds =>
      have counted := (kept.of_holds there holds).2
      have again := find?_modify_of_point
        (fun slot => { slot with references := slot.references + 1 }) (fun _ => rfl) table index
        point
      cases removed with
      | shared refound now holdsNow more =>
          rw [again, found] at refound
          cases refound
          refine ⟨?_, .inl ⟨rfl, rfl⟩⟩
          rw [modify_modify]
          exact modify_eq_self fun _ _ => rfl
      | freed refound now holdsNow last deregistered =>
          rw [again, found] at refound
          cases refound
          rw [get?_modify_self, there] at now
          cases now
          dsimp only at last
          omega
  | @taken index slot handle _ absent free there isFree registered fits =>
      have again := find?_modify_self absent there (fun _ => ⟨some point, 1, handle⟩) rfl
      cases removed with
      | shared refound now holdsNow more =>
          rw [again] at refound
          cases refound
          rw [get?_modify_self, there] at now
          cases now
          exact absurd more (Nat.lt_irrefl 1)
      | freed refound now holdsNow last deregistered =>
          have last := lastSlot?_of_last refound now last
          rw [again] at refound
          cases refound
          rw [get?_modify_self, there] at now
          cases now
          refine ⟨?_, .inr ⟨handle, registered, last, deregistered⟩⟩
          rw [modify_modify]
          refine modify_eq_self fun other found => ?_
          rw [there] at found
          cases found
          exact (kept.eq_free there isFree).symm

theorem Inserts.find?_isSome
    (inserted : table.Inserts point state register (.ok insertion, taken, side)) :
    taken.find? point = some insertion.index := by
  cases inserted with
  | shared found there holds =>
      exact (find?_modify_of_point (fun slot => { slot with references := slot.references + 1 })
        (fun _ => rfl) _ _ _).trans found
  | @taken index slot handle _ absent free there isFree registered fits =>
      exact find?_modify_self absent there (fun _ => ⟨some point, 1, handle⟩) rfl

end Undoing

end DebugRegisters.SlotTable
