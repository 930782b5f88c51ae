import DebugRegisters.Proofs.SlotTable.Slotwise
import DebugRegisters.ThreadPoints.Lemmas
import Mathlib.Data.List.Forall2

/-!
# Sets that differ by a change of points

Two sets of points can hold the same slots but for a change of every point. As
long as the change keeps the points apart, whatever is done to both sets at once
keeps them so. What is marked as changed plays no part in it.
-/

set_option autoImplicit false

namespace DebugRegisters

namespace ThreadPoints

/-- `early` has the tables of `late` with every point changed, and the points of
`late` are of the class, each in the bank of its kind. -/
structure Images (change : EncodedPoint → EncodedPoint) (among : EncodedPoint → Prop)
    (early late : ThreadPoints) : Prop where
  thread : early.thread = late.thread
  tables (bank : RegisterBank) : early.table bank = (late.table bank).slotwise change
  tidy (bank : RegisterBank) :
    (late.table bank).Tidy fun point => among point ∧ point.kind.bank = bank

variable {change : EncodedPoint → EncodedPoint} {among : EncodedPoint → Prop}
  {early late : ThreadPoints}

theorem images_empty (thread : ThreadId) (caps : Capabilities) :
    Images change among (.empty thread caps) (.empty thread caps) where
  thread := rfl
  tables bank := by cases bank <;> exact (SlotTable.slotwise_empty _ _).symm
  tidy bank := by cases bank <;> exact SlotTable.tidy_empty _ _

theorem Images.congr (images : Images change among early late) {earlyNow lateNow : ThreadPoints}
    (thread : earlyNow.thread = lateNow.thread)
    (first : ∀ bank, earlyNow.table bank = early.table bank)
    (second : ∀ bank, lateNow.table bank = late.table bank) :
    Images change among earlyNow lateNow where
  thread := thread
  tables bank := by rw [first, second, images.tables]
  tidy bank := by
    rw [second]
    exact images.tidy bank

theorem Images.setTable (images : Images change among early late) {bank : RegisterBank}
    {table : SlotTable} (tidy : table.Tidy fun point => among point ∧ point.kind.bank = bank) :
    Images change among (early.setTable bank (table.slotwise change)) (late.setTable bank table) where
  thread := by
    rw [thread_setTable, thread_setTable]
    exact images.thread
  tables other := by
    by_cases here : other = bank
    · subst here
      rw [table_setTable_self, table_setTable_self]
    · rw [table_setTable_of_ne _ _ here, table_setTable_of_ne _ _ here]
      exact images.tables other
  tidy other := by
    by_cases here : other = bank
    · subst here
      rw [table_setTable_self]
      exact tidy
    · rw [table_setTable_of_ne _ _ here]
      exact images.tidy other

end ThreadPoints

namespace ThreadSets

def layout (sets : ThreadSets) : List (ThreadId × SlotTable × SlotTable) :=
  sets.toList.map fun points =>
    (points.thread, points.table .breakpoints, points.table .watchpoints)

theorem layout_update {edit : ThreadPoints → ThreadPoints}
    (thread : ∀ points, (edit points).thread = points.thread)
    (tables : ∀ points bank, (edit points).table bank = points.table bank) (sets : ThreadSets)
    (changed : ThreadId) : (sets.update changed edit).layout = sets.layout := by
  unfold layout ThreadSets.update
  rw [List.map_map]
  refine List.map_congr_left fun points _ => ?_
  dsimp only [Function.comp]
  split
  · rw [thread, tables, tables]
  · rfl

/-- The sets of the same threads, in the same order, differ by the change. -/
def Images (change : EncodedPoint → EncodedPoint) (among : EncodedPoint → Prop)
    (early late : ThreadSets) : Prop :=
  List.Forall₂ (ThreadPoints.Images change among) early.toList late.toList

variable {change : EncodedPoint → EncodedPoint} {among : EncodedPoint → Prop}
  {early late : ThreadSets}

theorem images_iff_layout :
    Images change among early late ↔
      List.Forall₂
        (fun (thread, breakpoints, watchpoints) (other, first, second) =>
          thread = other ∧
            (breakpoints = first.slotwise change ∧ watchpoints = second.slotwise change) ∧
            (first.Tidy fun point => among point ∧ point.kind.bank = .breakpoints) ∧
            second.Tidy fun point => among point ∧ point.kind.bank = .watchpoints)
        early.layout late.layout := by
  unfold Images layout
  rw [List.forall₂_map_left_iff, List.forall₂_map_right_iff]
  refine ⟨fun images => images.imp fun one two related => ?_,
    fun images => images.imp fun one two related => ?_⟩
  · exact ⟨related.thread, ⟨related.tables _, related.tables _⟩, related.tidy _, related.tidy _⟩
  · obtain ⟨thread, ⟨breakpoints, watchpoints⟩, first, second⟩ := related
    refine ⟨thread, fun bank => ?_, fun bank => ?_⟩
    · cases bank with
      | breakpoints => exact breakpoints
      | watchpoints => exact watchpoints
    · cases bank with
      | breakpoints => exact first
      | watchpoints => exact second

theorem Images.congr_layout (images : Images change among early late)
    {earlyNow lateNow : ThreadSets} (first : earlyNow.layout = early.layout)
    (second : lateNow.layout = late.layout) : Images change among earlyNow lateNow := by
  rw [images_iff_layout] at images ⊢
  rwa [first, second]

/-- The layouts differ by what the change does to the tables of either bank. -/
theorem Images.layout_eq (images : Images change among early late)
    {first second : SlotTable → SlotTable}
    (breakpoints : ∀ table : SlotTable,
      (table.Tidy fun point => among point ∧ point.kind.bank = .breakpoints) →
        table.slotwise change = first table)
    (watchpoints : ∀ table : SlotTable,
      (table.Tidy fun point => among point ∧ point.kind.bank = .watchpoints) →
        table.slotwise change = second table) :
    early.layout = late.layout.map fun (thread, one, two) => (thread, first one, second two) := by
  rw [images_iff_layout] at images
  rw [← List.forall₂_eq_eq_eq, List.forall₂_map_right_iff]
  refine images.imp fun one two related => ?_
  obtain ⟨thread, code, data⟩ := one
  obtain ⟨other, codeLate, dataLate⟩ := two
  obtain ⟨same, ⟨codes, watches⟩, tidyCode, tidyData⟩ := related
  dsimp only at same codes watches ⊢
  rw [same, codes, watches, breakpoints codeLate tidyCode, watchpoints dataLate tidyData]

theorem Images.get? (images : Images change among early late) (thread : ThreadId) :
    (early.get? thread = none ∧ late.get? thread = none) ∨
      ∃ first second, early.get? thread = some first ∧ late.get? thread = some second ∧
        first.Images change among second := by
  obtain ⟨early⟩ := early
  obtain ⟨late⟩ := late
  unfold Images at images
  unfold ThreadSets.get?
  dsimp only at images ⊢
  induction images with
  | nil => exact .inl ⟨rfl, rfl⟩
  | @cons first second earlyRest lateRest related rest ih =>
      by_cases here : second.thread = thread
      · refine .inr ⟨first, second, ?_, ?_, related⟩
        · simp [related.thread, here]
        · simp [here]
      · have there : first.thread ≠ thread := fun same => here (related.thread.symm.trans same)
        simpa [List.find?_cons, here, there] using ih

theorem Images.getD (images : Images change among early late) (thread : ThreadId)
    (caps : Capabilities) :
    ThreadPoints.Images change among ((early.get? thread).getD (.empty thread caps))
      ((late.get? thread).getD (.empty thread caps)) := by
  rcases images.get? thread with ⟨first, second⟩ | ⟨first, second, there, also, related⟩
  · rw [first, second]
    exact ThreadPoints.images_empty thread caps
  · rw [there, also]
    exact related

theorem Images.ensure (images : Images change among early late) (thread : ThreadId)
    (caps : Capabilities) :
    Images change among (early.ensure thread caps) (late.ensure thread caps) := by
  unfold ThreadSets.ensure
  rcases images.get? thread with ⟨first, second⟩ | ⟨first, second, there, also, related⟩
  · rw [first, second]
    exact List.rel_append images (.cons (ThreadPoints.images_empty thread caps) .nil)
  · rw [there, also]
    exact images

theorem Images.update (images : Images change among early late) {thread : ThreadId}
    {first second : ThreadPoints → ThreadPoints}
    (changed : ∀ one two, one.Images change among two → two.thread = thread →
      (first one).Images change among (second two)) :
    Images change among (early.update thread first) (late.update thread second) := by
  unfold ThreadSets.update Images
  rw [List.forall₂_map_left_iff, List.forall₂_map_right_iff]
  refine images.imp fun one two related => ?_
  rw [related.thread]
  split
  · next here => exact changed one two related here
  · exact related

theorem Images.setTable (images : Images change among early late) (thread : ThreadId)
    {bank : RegisterBank} {table : SlotTable}
    (tidy : table.Tidy fun point => among point ∧ point.kind.bank = bank) :
    Images change among
      (early.update thread fun points => points.setTable bank (table.slotwise change))
      (late.update thread fun points => points.setTable bank table) :=
  images.update fun _ _ related _ => related.setTable tidy

theorem Images.markDirty (images : Images change among early late) (thread : ThreadId)
    (bank : RegisterBank) (index : Nat) :
    Images change among (early.update thread fun points => points.markDirty bank index)
      (late.update thread fun points => points.markDirty bank index) := by
  refine images.update fun one two related _ => related.congr ?_ ?_ ?_
  · simpa using related.thread
  · exact fun other => ThreadPoints.table_markDirty _ _ _ _
  · exact fun other => ThreadPoints.table_markDirty _ _ _ _

theorem Images.erase (images : Images change among early late) (thread : ThreadId) :
    Images change among (early.erase thread) (late.erase thread) := by
  refine List.rel_filter (fun one two related => ?_) images
  simp [related.thread]

theorem Images.insert (images : Images change among early late) {first second : ThreadPoints}
    (related : first.Images change among second) :
    Images change among (early.insert first) (late.insert second) := by
  unfold ThreadSets.insert
  rw [related.thread]
  exact List.rel_append (images.erase second.thread) (.cons related .nil)

theorem Images.last? (images : Images change among early late) :
    (early.last? = none ∧ late.last? = none) ∨
      ∃ first second, early.last? = some first ∧ late.last? = some second ∧
        first.Images change among second := by
  have reversed := List.rel_reverse images
  unfold ThreadSets.last?
  rw [List.getLast?_eq_head?_reverse, List.getLast?_eq_head?_reverse]
  generalize early.toList.reverse = first, late.toList.reverse = second at reversed ⊢
  cases reversed with
  | nil => exact .inl ⟨rfl, rfl⟩
  | cons related _ => exact .inr ⟨_, _, rfl, rfl, related⟩

theorem Images.any (images : Images change among early late) {first second : ThreadPoints → Bool}
    (same : ∀ one two, one.Images change among two → first one = second two) :
    early.toList.any first = late.toList.any second := by
  obtain ⟨early⟩ := early
  obtain ⟨late⟩ := late
  unfold Images at images
  dsimp only at images ⊢
  induction images with
  | nil => rfl
  | cons related _ ih => rw [List.any_cons, List.any_cons, same _ _ related, ih]

end ThreadSets

end DebugRegisters
