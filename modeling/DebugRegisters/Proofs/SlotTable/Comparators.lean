import DebugRegisters.Proofs.SlotTable.Merging
import Mathlib.Data.Finset.Card
import Mathlib.Data.Finset.Dedup

/-!
# Comparators of a table

The comparators that a table uses, and those that it would use if it got some
wanted points as well. A wanted point that is taken moves from the second count
into the first, and one that is given up moves back, so neither raises the sum.
-/

set_option autoImplicit false

namespace DebugRegisters

def EncodedPoint.usesComparator (point : EncodedPoint) : Bool :=
  point.comparator.isSome

namespace SlotTable

section Points

variable {table : SlotTable} {index : Nat} {slot : Slot} {point : EncodedPoint}

theorem comparatorsInUse_eq (table : SlotTable) :
    table.comparatorsInUse = table.points.countP EncodedPoint.usesComparator := by
  unfold comparatorsInUse points
  rw [List.countP_filterMap]
  refine List.countP_congr fun slot _ => ?_
  cases holds : slot.point <;> simp [Slot.usesComparator, EncodedPoint.usesComparator, holds]

@[simp] theorem comparatorsInUse_empty (bank : RegisterBank) (capacity : Nat) :
    (empty bank capacity).comparatorsInUse = 0 := by
  simp [comparatorsInUse, empty, Slot.usesComparator, Slot.free]

theorem coe_points_eq (table : SlotTable) :
    (table.points : Multiset EncodedPoint) =
      (table.slots.map fun slot => (slot.point.toList : Multiset EncodedPoint)).sum := by
  unfold points
  induction table.slots with
  | nil => rfl
  | cons slot rest ih =>
      rw [List.map_cons, List.sum_cons, ← ih]
      cases holds : slot.point <;> simp [holds]

/-- A slot that is changed trades its point for the new one. -/
theorem points_modify (there : table.get? index = some slot) (change : Slot → Slot) :
    ((table.modify index change).points ++ slot.point.toList).Perm
      (table.points ++ (change slot).point.toList) := by
  rw [← Multiset.coe_eq_coe, ← Multiset.coe_add, ← Multiset.coe_add, coe_points_eq, coe_points_eq]
  exact sum_map_modify _ change there

end Points

section Outcomes

variable {σ : Type} {table after : SlotTable} {point : EncodedPoint} {state side : σ}

theorem Inserts.points {register : σ → EncodedPoint → Except PointError (Option SlotHandle) × σ}
    {result : Except PointError Insertion}
    (inserted : Inserts table point state register (result, after, side)) :
    after.points = table.points ∨
      point ∉ table.points ∧ after.points.Perm (point :: table.points) := by
  cases inserted with
  | shared found there holds => exact .inl (points_recount _ _ _)
  | full | refused => exact .inl rfl
  | @taken index slot handle _ absent free there isFree registered fits =>
      have changed := points_modify there fun _ => ⟨some point, 1, handle⟩
      rw [isFree, Option.toList_none, List.append_nil, Option.toList_some] at changed
      exact .inr ⟨notMem_points_of_find? absent, changed.trans (List.perm_append_singleton _ _)⟩

theorem Removes.points {deregister : σ → Option SlotHandle → Except PointError Unit × σ}
    {removal : Removal} (removed : Removes table point state deregister (.ok removal, after, side)) :
    point ∈ table.points ∧
      (after.points = table.points ∨ table.points.Perm (point :: after.points)) := by
  cases removed with
  | shared found there holds more =>
      exact ⟨mem_points_of_get? there holds, .inl (points_recount _ _ _)⟩
  | freed found there holds last deregistered =>
      have changed := points_modify there fun _ => .free
      rw [holds, Option.toList_some, Slot.free, Option.toList_none, List.append_nil] at changed
      exact ⟨mem_points_of_get? there holds,
        .inr (changed.symm.trans (List.perm_append_singleton _ _))⟩

end Outcomes

def lacking (table : SlotTable) (wanted : Finset EncodedPoint) : Finset EncodedPoint :=
  wanted.filter fun point => point.usesComparator = true ∧ point ∉ table.points

/-- The comparators in use if the table gets all `wanted` points as well. -/
def claims (table : SlotTable) (wanted : Finset EncodedPoint) : Nat :=
  table.points.countP EncodedPoint.usesComparator + (table.lacking wanted).card

section Claims

variable {table after : SlotTable} {wanted : Finset EncodedPoint} {point : EncodedPoint}

theorem mem_lacking : point ∈ table.lacking wanted ↔
    point ∈ wanted ∧ point.usesComparator = true ∧ point ∉ table.points :=
  Finset.mem_filter

@[simp] theorem claims_nothing (table : SlotTable) : table.claims ∅ = table.comparatorsInUse := by
  simp [claims, lacking, comparatorsInUse_eq]

theorem claims_mono (table : SlotTable) {fewer more : Finset EncodedPoint} (within : fewer ⊆ more) :
    table.claims fewer ≤ table.claims more :=
  Nat.add_le_add_left (Finset.card_le_card (Finset.filter_subset_filter _ within)) _

theorem comparatorsInUse_le_claims (table : SlotTable) (wanted : Finset EncodedPoint) :
    table.comparatorsInUse ≤ table.claims wanted := by
  rw [← claims_nothing]
  exact table.claims_mono (Finset.empty_subset wanted)

theorem claims_congr (same : after.points = table.points) (wanted : Finset EncodedPoint) :
    after.claims wanted = table.claims wanted := by
  rw [claims, claims, lacking, lacking, same]

/-- Points that are wanted beside the others take a comparator each at most. -/
theorem claims_le (table : SlotTable) (points : List EncodedPoint) :
    table.claims points.toFinset ≤
      table.comparatorsInUse + points.countP EncodedPoint.usesComparator := by
  rw [claims, comparatorsInUse_eq]
  apply Nat.add_le_add_left
  rw [List.countP_eq_length_filter]
  refine (Finset.card_le_card ?_).trans (List.toFinset_card_le _)
  intro point member
  obtain ⟨listed, uses, -⟩ := mem_lacking.mp member
  exact List.mem_toFinset.mpr (List.mem_filter.mpr ⟨List.mem_toFinset.mp listed, uses⟩)

/-- A point that is new in the table is no longer wanted there. -/
theorem claims_taken (absent : point ∉ table.points)
    (taken : after.points.Perm (point :: table.points)) (wanted : Finset EncodedPoint) :
    after.claims wanted ≤ table.claims (insert point wanted) := by
  have fewer : after.lacking wanted ⊆ (table.lacking (insert point wanted)).erase point := by
    intro other member
    obtain ⟨listed, uses, missing⟩ := mem_lacking.mp member
    rw [taken.mem_iff, List.mem_cons, not_or] at missing
    exact Finset.mem_erase.mpr
      ⟨missing.1, mem_lacking.mpr ⟨Finset.mem_insert_of_mem listed, uses, missing.2⟩⟩
  have counted := Finset.card_le_card fewer
  unfold claims
  rw [taken.countP_eq, List.countP_cons]
  by_cases uses : point.usesComparator = true
  · have claimed : point ∈ table.lacking (insert point wanted) :=
      mem_lacking.mpr ⟨Finset.mem_insert_self _ _, uses, absent⟩
    have one := Finset.card_erase_add_one claimed
    rw [if_pos uses]
    omega
  · have erased : ((table.lacking (insert point wanted)).erase point).card ≤ _ :=
      Finset.card_erase_le
    rw [if_neg uses]
    omega

/-- A point that the table gives up can be wanted back. -/
theorem claims_dropped (dropped : table.points.Perm (point :: after.points))
    (wanted : Finset EncodedPoint) : after.claims (insert point wanted) ≤ table.claims wanted := by
  have split : ∀ other ∈ after.lacking (insert point wanted),
      other = point ∨ other ∈ table.lacking wanted := by
    intro other member
    obtain ⟨listed, uses, missing⟩ := mem_lacking.mp member
    rcases Finset.mem_insert.mp listed with same | before
    · exact .inl same
    · by_cases same : other = point
      · exact .inl same
      · refine .inr (mem_lacking.mpr ⟨before, uses, ?_⟩)
        simp [dropped.mem_iff, same, missing]
  unfold claims
  rw [dropped.countP_eq, List.countP_cons]
  by_cases uses : point.usesComparator = true
  · have more : after.lacking (insert point wanted) ⊆ insert point (table.lacking wanted) :=
      fun other member => Finset.mem_insert.mpr (split other member)
    have counted := (Finset.card_le_card more).trans (Finset.card_insert_le _ _)
    rw [if_pos uses]
    omega
  · have same : after.lacking (insert point wanted) ⊆ table.lacking wanted := by
      intro other member
      rcases split other member with rfl | there
      · exact absurd (mem_lacking.mp member).2.1 uses
      · exact there
    have counted := Finset.card_le_card same
    rw [if_neg uses]
    omega

variable {σ : Type} {state side : σ}

theorem Inserts.claims_le {register : σ → EncodedPoint → Except PointError (Option SlotHandle) × σ}
    {result : Except PointError Insertion}
    (inserted : Inserts table point state register (result, after, side))
    (wanted : Finset EncodedPoint) : after.claims wanted ≤ table.claims (insert point wanted) := by
  rcases inserted.points with same | ⟨absent, taken⟩
  · rw [claims_congr same]
    exact table.claims_mono (Finset.subset_insert point wanted)
  · exact claims_taken absent taken wanted

theorem Removes.claims_le {deregister : σ → Option SlotHandle → Except PointError Unit × σ}
    {removal : Removal} (removed : Removes table point state deregister (.ok removal, after, side))
    (wanted : Finset EncodedPoint) : after.claims (insert point wanted) ≤ table.claims wanted := by
  obtain ⟨present, same | dropped⟩ := removed.points
  · rw [claims_congr same, claims, lacking, Finset.filter_insert,
      if_neg fun missing => missing.2 present]
    exact le_refl _
  · exact claims_dropped dropped wanted

end Claims

/-- Changed points use no more comparators, where each keeps its own. -/
theorem comparatorsInUse_mapPoints_le {change : EncodedPoint → EncodedPoint} {table : SlotTable}
    (keeps : ∀ point, (change point).usesComparator = point.usesComparator) :
    (table.mapPoints change).1.comparatorsInUse ≤ table.comparatorsInUse := by
  have fewer := (points_mapPoints_subperm change table).countP_le EncodedPoint.usesComparator
  have same : EncodedPoint.usesComparator ∘ change = EncodedPoint.usesComparator := funext keeps
  rwa [List.countP_map, same, ← comparatorsInUse_eq, ← comparatorsInUse_eq] at fewer

end SlotTable

end DebugRegisters
