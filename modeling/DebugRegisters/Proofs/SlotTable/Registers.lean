import DebugRegisters.Proofs.SlotTable.Contents
import DebugRegisters.ThreadPoints.Lemmas

/-!
# Register contents and marks

What the operations on a table do to the pairs that arm its points. Sharing a
slot changes no pair. Any other change is one of a slot inside the table, which
the operation names. A slot that is marked shows in the map of its bank.
-/

set_option autoImplicit false

namespace DebugRegisters

theorem Slot.registerPair_with_references (slot : Slot) (references : Nat) :
    Slot.registerPair { slot with references } = slot.registerPair := by
  obtain ⟨point, before, handle⟩ := slot
  cases point with
  | none => rfl
  | some point => cases point; rfl

namespace SlotTable

theorem registerBlock_modify {table : SlotTable} {index : Nat} {change : Slot → Slot}
    (same : ∀ slot, (change slot).registerPair = slot.registerPair) :
    (table.modify index change).registerBlock = table.registerBlock := by
  have pairs : (table.slots.modify index change).map Slot.registerPair =
      table.slots.map Slot.registerPair := by
    apply List.ext_getElem?
    intro position
    rw [List.getElem?_map, List.getElem?_map, List.getElem?_modify]
    cases table.slots[position]? with
    | none => rfl
    | some slot =>
        by_cases here : index = position
        · simp [here, same]
        · simp [here]
  exact congrArg (Arm.RegisterBlock.mk 0) pairs

theorem lt_capacity_of_get? {table : SlotTable} {index : Nat} {slot : Slot}
    (there : table.get? index = some slot) : index < table.capacity :=
  (List.getElem?_eq_some_iff.mp there).1

section Operations

variable {σ : Type} {table after : SlotTable} {point : EncodedPoint} {state side : σ}
  {register : σ → EncodedPoint → Except PointError (Option SlotHandle) × σ}
  {deregister : σ → Option SlotHandle → Except PointError Unit × σ}

theorem Inserts.capacity {result : Except PointError Insertion}
    (inserted : Inserts table point state register (result, after, side)) :
    after.capacity = table.capacity := by
  cases inserted with
  | full | refused => rfl
  | shared | taken => exact capacity_modify _ _ _

theorem Inserts.unchanged {error : PointError}
    (inserted : Inserts table point state register (.error error, after, side)) :
    after = table := by
  cases inserted with
  | full | refused => rfl

theorem Inserts.index_lt {insertion : Insertion}
    (inserted : Inserts table point state register (.ok insertion, after, side)) :
    insertion.index < table.capacity := by
  cases inserted with
  | shared found there => exact lt_capacity_of_get? there
  | taken absent free there => exact lt_capacity_of_get? there

theorem Inserts.registerBlock {insertion : Insertion}
    (inserted : Inserts table point state register (.ok insertion, after, side))
    (shared : insertion.isFresh = false) : after.registerBlock = table.registerBlock := by
  cases inserted with
  | shared => exact registerBlock_modify fun slot => slot.registerPair_with_references _
  | taken => cases shared

theorem Removes.capacity {result : Except PointError Removal}
    (removed : Removes table point state deregister (result, after, side)) :
    after.capacity = table.capacity := by
  cases removed with
  | absent | refused => rfl
  | shared | freed => exact capacity_modify _ _ _

theorem Removes.unchanged {error : PointError}
    (removed : Removes table point state deregister (.error error, after, side)) :
    after = table := by
  cases removed with
  | absent | refused => rfl

theorem Removes.index_lt {removal : Removal}
    (removed : Removes table point state deregister (.ok removal, after, side)) :
    removal.index < table.capacity := by
  cases removed with
  | shared found there => exact lt_capacity_of_get? there
  | freed found there => exact lt_capacity_of_get? there

theorem Removes.registerBlock {removal : Removal}
    (removed : Removes table point state deregister (.ok removal, after, side))
    (shared : removal.isFreed = false) : after.registerBlock = table.registerBlock := by
  cases removed with
  | shared => exact registerBlock_modify fun slot => slot.registerPair_with_references _
  | freed => cases shared

end Operations

section MapPoints

variable {change : EncodedPoint → EncodedPoint}

/-- The slots reported as changed are those behind the ones already done. -/
theorem mem_mapPointsFrom_changed {done : Array Slot} {slots : List Slot} {index : Nat}
    (changed : index ∈ (mapPointsFrom change done slots).2) :
    index < done.size + slots.length := by
  induction slots generalizing done with
  | nil => cases changed
  | cons slot rest ih =>
      have grown : ∀ last : Slot, (done.push last).size + rest.length =
          done.size + (slot :: rest).length := by
        intro last
        rw [Array.size_push, List.length_cons]
        omega
      unfold mapPointsFrom at changed
      split at changed
      · exact grown _ ▸ ih changed
      · split at changed
        · exact grown _ ▸ ih changed
        · dsimp only at changed
          rcases List.mem_cons.mp changed with rfl | later
          · rw [List.length_cons]
            omega
          · have bounded := ih later
            rw [List.length_cons]
            split at bounded <;> simp only [Array.size_push, Array.size_modify] at bounded <;> omega

theorem mapPointsFrom_unchanged {done : Array Slot} {slots : List Slot}
    (unchanged : (mapPointsFrom change done slots).2 = []) :
    (mapPointsFrom change done slots).1 = done ++ slots := by
  induction slots generalizing done with
  | nil => simp [mapPointsFrom]
  | cons slot rest ih =>
      unfold mapPointsFrom at unchanged ⊢
      split at unchanged
      · rw [ih unchanged]
        simp
      · split at unchanged
        · next fixed =>
            rw [if_pos fixed, ih unchanged]
            simp
        · cases unchanged

theorem lt_capacity_of_mem_changed {table : SlotTable} {index : Nat}
    (changed : index ∈ (table.mapPoints change).2) : index < table.capacity := by
  have bounded : index < (#[] : Array Slot).size + table.slots.length :=
    mem_mapPointsFrom_changed changed
  simpa [SlotTable.capacity] using bounded

/-- A table of which no slot is reported as changed is the table from before. -/
theorem mapPoints_unchanged {table : SlotTable} (unchanged : (table.mapPoints change).2 = []) :
    (table.mapPoints change).1 = table := by
  have same : (mapPointsFrom change #[] table.slots).1 = #[] ++ table.slots :=
    mapPointsFrom_unchanged unchanged
  simp [mapPoints, same]

end MapPoints

end SlotTable

namespace ThreadPoints

theorem shiftLeft_ne_zero {places : Nat} (inside : places < 64) : Word.shiftLeft 1 places ≠ 0 := by
  intro zero
  have value : (Word.shiftLeft 1 places).toNat = 0 := congrArg UInt64.toNat zero
  have small : places < 2 ^ 64 := by omega
  have power : 2 ^ places < 2 ^ 64 := Nat.pow_lt_pow_right (by decide) inside
  simp only [Word.shiftLeft, inside, if_true, UInt64.toNat_shiftLeft, UInt64.toNat_one,
    UInt64.toNat_ofNat', Nat.mod_eq_of_lt small, Nat.mod_eq_of_lt inside, Nat.shiftLeft_eq,
    Nat.one_mul, Nat.mod_eq_of_lt power] at value
  exact absurd value (Nat.ne_of_gt (Nat.two_pow_pos places))

theorem dirty_markDirty_ne_zero (points : ThreadPoints) (bank : RegisterBank) {index : Nat}
    (inside : index < 64) : (points.markDirty bank index).dirty bank ≠ 0 := by
  intro clean
  have merged : points.dirty bank ||| Word.shiftLeft 1 index = 0 := by
    cases bank <;> exact clean
  exact shiftLeft_ne_zero inside (UInt64.or_eq_zero_iff.mp merged).2

theorem dirty_markDirty_of_ne (points : ThreadPoints) {bank other : RegisterBank}
    (different : other ≠ bank) (index : Nat) :
    (points.markDirty bank index).dirty other = points.dirty other := by
  cases bank <;> cases other <;> first | rfl | exact absurd rfl different

theorem dirty_clearDirty_of_ne (points : ThreadPoints) {bank other : RegisterBank}
    (different : other ≠ bank) : (points.clearDirty bank).dirty other = points.dirty other := by
  cases bank <;> cases other <;> first | rfl | exact absurd rfl different

theorem dirty_markAllDirty_ne_zero (points : ThreadPoints) (bank : RegisterBank)
    (some : 0 < (points.table bank).capacity) (few : (points.table bank).capacity < 64) :
    points.markAllDirty.dirty bank ≠ 0 := by
  have marked : points.markAllDirty.dirty bank = Word.lowBits (points.table bank).capacity := by
    cases bank <;> rfl
  rw [marked]
  generalize (points.table bank).capacity = count at some few
  intro clean
  have value : (Word.lowBits count).toNat = 0 := congrArg UInt64.toNat clean
  have power : 2 ^ count < 2 ^ 64 := Nat.pow_lt_pow_right (by decide) few
  have least : 2 ^ 1 ≤ 2 ^ count := Nat.pow_le_pow_right (by decide) some
  simp only [Word.lowBits, few, if_true, UInt64.toNat_ofNat', Nat.one_shiftLeft] at value
  rw [Nat.mod_eq_of_lt (by omega)] at value
  omega

end ThreadPoints

end DebugRegisters
