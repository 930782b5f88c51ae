import DebugRegisters.Proofs.SlotTable.Registers
import DebugRegisters.Session.Resume

/-!
# Banks with nothing left to write

A set of points is settled with the register contents of its thread when every
bank that is not marked holds exactly the armed pairs of its table. A bank
without slots is never marked and has no pairs. Changes of a table either leave
its pairs alone or mark the bank.
-/

set_option autoImplicit false

namespace DebugRegisters.ThreadPoints

abbrev ArmedPairs := List (Nat × Arm.RegisterPair)

def IsClean (points : ThreadPoints) (bank : RegisterBank) : Prop :=
  points.dirty bank = 0 ∨ (points.table bank).capacity = 0

def SettledWith (points : ThreadPoints) (armed : RegisterBank → ArmedPairs) : Prop :=
  ∀ bank, points.IsClean bank → armed bank = (points.table bank).registerBlock.enabled

variable {points : ThreadPoints} {armed : RegisterBank → ArmedPairs} {bank : RegisterBank}

theorem enabled_registerBlock_empty (bank : RegisterBank) (capacity : Nat) :
    (SlotTable.empty bank capacity).registerBlock.enabled = [] := by
  unfold Arm.RegisterBlock.enabled
  rw [List.filter_eq_nil_iff]
  rintro ⟨index, pair⟩ member
  obtain ⟨⟨other, position⟩, there, same⟩ := List.mem_map.mp member
  cases same
  have found := List.mem_zipIdx_iff_getElem?.mp there
  simp only [SlotTable.registerBlock, SlotTable.empty, List.map_replicate,
    List.getElem?_replicate] at found
  split at found
  · cases found
    exact show ¬Slot.free.registerPair.isEnabled = true by decide
  · cases found

theorem enabled_of_capacity_eq_zero {table : SlotTable} (none : table.capacity = 0) :
    table.registerBlock.enabled = [] := by
  have slots : table.slots = [] := List.eq_nil_of_length_eq_zero none
  simp [SlotTable.registerBlock, Arm.RegisterBlock.enabled, slots]

theorem settledWith_empty (thread : ThreadId) (caps : Capabilities)
    (bare : ∀ bank, armed bank = []) : (ThreadPoints.empty thread caps).SettledWith armed := by
  intro bank _
  rw [bare]
  cases bank <;> exact (enabled_registerBlock_empty _ _).symm

theorem SettledWith.setTable (settled : points.SettledWith armed) {table : SlotTable}
    (sized : table.capacity = (points.table bank).capacity)
    (same : table.registerBlock = (points.table bank).registerBlock) :
    (points.setTable bank table).SettledWith armed := by
  intro other clean
  unfold IsClean at clean
  by_cases here : other = bank
  · subst here
    rw [dirty_setTable, table_setTable_self, sized] at clean
    rw [table_setTable_self, same]
    exact settled other clean
  · rw [dirty_setTable, table_setTable_of_ne points table here] at clean
    rw [table_setTable_of_ne points table here]
    exact settled other clean

/-- In a bank that is marked anything may have changed. -/
theorem SettledWith.mark {index : Nat} (inside : index < (points.table bank).capacity)
    (few : (points.table bank).capacity ≤ Arm.maxSlots)
    (others : ∀ other, other ≠ bank → points.IsClean other →
      armed other = (points.table other).registerBlock.enabled) :
    (points.markDirty bank index).SettledWith armed := by
  intro other clean
  unfold IsClean at clean
  unfold Arm.maxSlots at few
  rw [table_markDirty] at clean ⊢
  by_cases here : other = bank
  · subst here
    rcases clean with unmarked | none
    · exact absurd unmarked (dirty_markDirty_ne_zero points other (by omega))
    · omega
  · rw [dirty_markDirty_of_ne points here] at clean
    exact others other here clean

/-- A table can be changed where the change is marked. -/
theorem SettledWith.setTable_mark (settled : points.SettledWith armed) {table : SlotTable}
    (sized : table.capacity = (points.table bank).capacity) {index : Nat}
    (inside : index < (points.table bank).capacity)
    (few : (points.table bank).capacity ≤ Arm.maxSlots) :
    ((points.setTable bank table).markDirty bank index).SettledWith armed := by
  refine .mark (by rwa [table_setTable_self, sized]) (by rwa [table_setTable_self, sized]) ?_
  intro other different clean
  unfold IsClean at clean
  rw [dirty_setTable, table_setTable_of_ne points table different] at clean
  rw [table_setTable_of_ne points table different]
  exact settled other clean

theorem table_foldl_markDirty (indices : List Nat) (points : ThreadPoints)
    (bank other : RegisterBank) :
    (indices.foldl (fun points index => points.markDirty bank index) points).table other =
      points.table other := by
  induction indices generalizing points with
  | nil => rfl
  | cons index rest ih => rw [List.foldl_cons, ih, table_markDirty]

theorem SettledWith.markMany (settled : points.SettledWith armed) {indices : List Nat}
    (inside : ∀ index ∈ indices, index < (points.table bank).capacity)
    (few : (points.table bank).capacity ≤ Arm.maxSlots) :
    (indices.foldl (fun points index => points.markDirty bank index) points).SettledWith armed := by
  induction indices generalizing points with
  | nil => exact settled
  | cons index rest ih =>
      refine ih (.mark (inside index List.mem_cons_self) few fun other _ => settled other) ?_ ?_
      · intro other member
        rw [table_markDirty]
        exact inside other (List.mem_cons_of_mem _ member)
      · rwa [table_markDirty]

theorem SettledWith.restrict (settled : points.SettledWith armed)
    (few : (points.table .watchpoints).capacity ≤ Arm.maxSlots) (table : MaskTable) :
    (points.restrict table).SettledWith armed := by
  have inside : ∀ index ∈ (points.watchpoints.table.mapPoints table.restrict).2,
      index < (points.table .watchpoints).capacity :=
    fun index changed => SlotTable.lt_capacity_of_mem_changed changed
  have sized : (points.watchpoints.table.mapPoints table.restrict).1.capacity =
      (points.table .watchpoints).capacity := SlotTable.capacity_mapPoints _ _
  unfold ThreadPoints.restrict
  dsimp only
  cases changed : (points.watchpoints.table.mapPoints table.restrict).2 with
  | nil => exact settled.setTable sized (by rw [SlotTable.mapPoints_unchanged changed]; rfl)
  | cons first rest =>
      rw [changed] at inside
      rw [List.foldl_cons]
      refine SettledWith.markMany
        (settled.setTable_mark sized (inside first List.mem_cons_self) few) ?_ ?_
      · intro index member
        rw [table_markDirty, table_setTable_self, sized]
        exact inside index (List.mem_cons_of_mem _ member)
      · rwa [table_markDirty, table_setTable_self, sized]

/-- A set whose banks are all marked is settled with anything, except where
there are no slots. -/
theorem settledWith_markAllDirty (few : ∀ bank, (points.table bank).capacity ≤ Arm.maxSlots)
    (bare : ∀ bank, (points.table bank).capacity = 0 → armed bank = []) :
    points.markAllDirty.SettledWith armed := by
  intro bank clean
  have none : (points.table bank).capacity = 0 := by
    rcases clean with unmarked | none
    · by_contra some
      have bound := few bank
      unfold Arm.maxSlots at bound
      exact dirty_markAllDirty_ne_zero points bank (Nat.pos_of_ne_zero some) (by omega) unmarked
    · rwa [table_markAllDirty] at none
  rw [bare bank none, table_markAllDirty, enabled_of_capacity_eq_zero none]

/-- A bank that was just written need not be marked. -/
theorem SettledWith.clearDirty {now : RegisterBank → ArmedPairs} (settled : points.SettledWith armed)
    (wrote : now bank = (points.table bank).registerBlock.enabled)
    (others : ∀ other, other ≠ bank → now other = armed other) :
    (points.clearDirty bank).SettledWith now := by
  intro other clean
  unfold IsClean at clean
  rw [table_clearDirty] at clean ⊢
  by_cases here : other = bank
  · exact here ▸ wrote
  · rw [dirty_clearDirty_of_ne points here] at clean
    rw [others other here]
    exact settled other clean

theorem thread_restrict (points : ThreadPoints) (table : MaskTable) :
    (points.restrict table).thread = points.thread := by
  have marked : ∀ (indices : List Nat) (points : ThreadPoints),
      (indices.foldl (fun points index => points.markDirty .watchpoints index) points).thread =
        points.thread := by
    intro indices
    induction indices with
    | nil => exact fun _ => rfl
    | cons index rest ih =>
        intro points
        rw [List.foldl_cons, ih, thread_markDirty]
  unfold ThreadPoints.restrict
  dsimp only
  rw [marked, thread_setTable]

theorem table_restrict_watchpoints (points : ThreadPoints) (table : MaskTable) :
    (points.restrict table).table .watchpoints =
      ((points.table .watchpoints).mapPoints table.restrict).1 := by
  unfold ThreadPoints.restrict
  dsimp only
  rw [table_foldl_markDirty, table_setTable_self]
  rfl

theorem table_restrict_breakpoints (points : ThreadPoints) (table : MaskTable) :
    (points.restrict table).table .breakpoints = points.table .breakpoints := by
  unfold ThreadPoints.restrict
  dsimp only
  rw [table_foldl_markDirty, table_setTable_of_ne _ _ (by decide)]

/-- Only watchpoints are restricted, so no breakpoint needs writing for it. -/
theorem dirty_restrict_breakpoints (points : ThreadPoints) (table : MaskTable) :
    (points.restrict table).dirty .breakpoints = points.dirty .breakpoints := by
  have marked : ∀ (indices : List Nat) (points : ThreadPoints),
      (indices.foldl (fun points index => points.markDirty .watchpoints index) points).dirty
        .breakpoints = points.dirty .breakpoints := by
    intro indices
    induction indices with
    | nil => exact fun _ => rfl
    | cons index rest ih =>
        intro points
        rw [List.foldl_cons, ih, dirty_markDirty_of_ne _ (by decide)]
  unfold ThreadPoints.restrict
  dsimp only
  rw [marked, dirty_setTable]

end DebugRegisters.ThreadPoints
