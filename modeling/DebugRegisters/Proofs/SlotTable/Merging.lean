import DebugRegisters.Encoding
import DebugRegisters.Proofs.MaskTable.Rounding
import DebugRegisters.Proofs.SlotTable.References
import Mathlib.Algebra.Order.BigOperators.Group.List
import Mathlib.Algebra.Order.Group.Nat

/-!
# Merging slots

Points are changed one after the other, and a changed point is looked for among
the slots before its own only. So two slots come to hold the same point exactly
where a slot changes into the point of a later one. Everything else that a table
promises is kept, whatever its points change into.
-/

set_option autoImplicit false

namespace DebugRegisters.SlotTable

section Steps

variable {change : EncodedPoint → EncodedPoint}

/-- A change of all points, seen on the points done and those still to do. -/
theorem points_mapPoints_keep (holds : List EncodedPoint → List EncodedPoint → Prop)
    (kept : ∀ {done rest : List EncodedPoint} {point : EncodedPoint}, change point = point →
      holds done (point :: rest) → holds (done ++ [point]) rest)
    (merged : ∀ {done rest : List EncodedPoint} {point : EncodedPoint}, change point ≠ point →
      change point ∈ done → holds done (point :: rest) → holds done rest)
    (moved : ∀ {done rest : List EncodedPoint} {point : EncodedPoint}, change point ≠ point →
      change point ∉ done → holds done (point :: rest) → holds (done ++ [change point]) rest)
    {table : SlotTable} (start : holds [] table.points) :
    holds (table.mapPoints change).1.points [] := by
  refine mapPoints_keeps change table
    (fun done rest => holds (done.filterMap Slot.point) (rest.filterMap Slot.point)) ?_ start
  intro done next rest slot settled before
  cases settled with
  | kept same =>
      rw [List.filterMap_append]
      cases holding : slot.point with
      | none => simpa [holding] using before
      | some point =>
          rw [List.filterMap_cons_some holding] at before
          simp only [holding, Option.map_some, Option.some.injEq] at same
          simpa [holding] using kept same before
  | @merged index earlier point holding changed there same =>
      rw [List.filterMap_cons_some holding] at before
      have present : change point ∈ done.filterMap Slot.point :=
        List.mem_filterMap.mpr ⟨earlier, List.mem_of_getElem? there, same⟩
      rw [List.filterMap_append, filterMap_point_recount]
      simpa [Slot.free] using merged changed present before
  | @moved point holding changed absent =>
      rw [List.filterMap_cons_some holding] at before
      have fresh : change point ∉ done.filterMap Slot.point := by
        intro member
        obtain ⟨earlier, listed, same⟩ := List.mem_filterMap.mp member
        exact absent earlier listed same
      simpa using moved changed fresh before

end Steps

section Points

variable {change : EncodedPoint → EncodedPoint} {table : SlotTable}

/-- Where no slot changes into the point of a later one, points stay distinct. -/
theorem nodup_points_mapPoints (distinct : table.points.Nodup)
    (clear : table.points.Pairwise fun point later => later ≠ change point) :
    (table.mapPoints change).1.points.Nodup := by
  let Apart : List EncodedPoint → List EncodedPoint → Prop := fun done rest =>
    done.Nodup ∧ done.Disjoint rest ∧ rest.Nodup ∧
      rest.Pairwise fun point later => later ≠ change point
  suffices ends : Apart (table.mapPoints change).1.points [] from ends.1
  refine points_mapPoints_keep Apart ?kept ?merged ?moved
    ⟨List.nodup_nil, List.disjoint_nil_left _, distinct, clear⟩
  case kept =>
    rintro done rest point - ⟨settled, apart, distinct, clear⟩
    obtain ⟨fresh, distinct⟩ := List.nodup_cons.mp distinct
    obtain ⟨absent, apart⟩ := List.disjoint_cons_right.mp apart
    refine ⟨?_, ?_, distinct, (List.pairwise_cons.mp clear).2⟩
    · simpa using settled.concat absent
    · exact List.disjoint_append_left.mpr ⟨apart, by simpa using fresh⟩
  case merged =>
    rintro done rest point - - ⟨settled, apart, distinct, clear⟩
    exact ⟨settled, (List.disjoint_cons_right.mp apart).2, (List.nodup_cons.mp distinct).2,
      (List.pairwise_cons.mp clear).2⟩
  case moved =>
    rintro done rest point - absent ⟨settled, apart, distinct, clear⟩
    obtain ⟨ahead, clear⟩ := List.pairwise_cons.mp clear
    refine ⟨?_, ?_, (List.nodup_cons.mp distinct).2, clear⟩
    · simpa using settled.concat absent
    · refine List.disjoint_append_left.mpr ⟨(List.disjoint_cons_right.mp apart).2, ?_⟩
      have fresh : change point ∉ rest := fun member => ahead _ member rfl
      simpa using fresh

/-- A slot that changes into the point of a later one is not merged with it. -/
theorem two_le_count_points_mapPoints {point later : EncodedPoint}
    (settled : change later = later) (before : [point, later].Sublist table.points)
    (meets : later = change point) : 2 ≤ (table.mapPoints change).1.points.count later := by
  let Meets : List EncodedPoint → List EncodedPoint → Prop := fun done rest =>
    2 ≤ done.count later + rest.count later ∨
      ∃ point, [point, later].Sublist rest ∧ later = change point
  have ends : Meets (table.mapPoints change).1.points [] := by
    have next : ∀ {point first : EncodedPoint} {rest : List EncodedPoint},
        [point, later].Sublist (first :: rest) → [point, later].Sublist rest ∨
          point = first ∧ 0 < rest.count later := by
      intro point first rest pair
      rcases List.sublist_cons_iff.mp pair with within | ⟨_, same, single⟩
      · exact .inl within
      · cases same
        exact .inr ⟨rfl, List.count_pos_iff.mpr (List.singleton_sublist.mp single)⟩
    refine points_mapPoints_keep Meets ?kept ?merged ?moved (.inr ⟨point, before, meets⟩)
    case kept =>
      rintro done rest first fixed (twice | ⟨point, pair, meets⟩)
      · refine .inl ?_
        rw [List.count_append, List.count_singleton]
        rw [List.count_cons] at twice
        omega
      · rcases next pair with within | ⟨rfl, again⟩
        · exact .inr ⟨point, within, meets⟩
        · refine .inl ?_
          rw [List.count_append, meets, fixed, List.count_singleton_self, ← fixed, ← meets]
          omega
    case merged =>
      rintro done rest first changed present (twice | ⟨point, pair, meets⟩)
      · have other : first ≠ later := by
          rintro rfl
          exact changed settled
        rw [List.count_cons_of_ne other] at twice
        exact .inl twice
      · rcases next pair with within | ⟨rfl, again⟩
        · exact .inr ⟨point, within, meets⟩
        · have once : 0 < done.count later := List.count_pos_iff.mpr (meets ▸ present)
          exact .inl (by omega)
    case moved =>
      rintro done rest first changed - (twice | ⟨point, pair, meets⟩)
      · have other : first ≠ later := by
          rintro rfl
          exact changed settled
        rw [List.count_cons_of_ne other] at twice
        refine .inl ?_
        rw [List.count_append]
        omega
      · rcases next pair with within | ⟨rfl, again⟩
        · exact .inr ⟨point, within, meets⟩
        · refine .inl ?_
          rw [List.count_append, ← meets, List.count_singleton_self]
          omega
  rcases ends with twice | ⟨_, nothing, _⟩
  · simpa using twice
  · cases nothing

/-- What is left after merging are some of the changed points. -/
theorem points_mapPoints_subperm (change : EncodedPoint → EncodedPoint) (table : SlotTable) :
    (table.mapPoints change).1.points.Subperm (table.points.map change) := by
  have ends : ((table.mapPoints change).1.points ++ ([] : List EncodedPoint).map change).Subperm
      (table.points.map change) := by
    refine points_mapPoints_keep (fun done rest =>
      (done ++ rest.map change).Subperm (table.points.map change)) ?kept ?merged ?moved (.refl _)
    case kept =>
      intro done rest point fixed before
      simpa [fixed] using before
    case merged =>
      intro done rest point _ _ before
      exact (((List.sublist_cons_self _ _).append_left done).subperm).trans before
    case moved =>
      intro done rest point _ _ before
      simpa using before
  simpa using ends

/-- Changed points take no more registers, where each takes what it took. -/
theorem used_mapPoints_le_of_forall_mem
    (cost : ∀ point ∈ table.points, (change point).cost = point.cost) :
    (table.mapPoints change).1.used ≤ table.used := by
  obtain ⟨left, same, among⟩ := points_mapPoints_subperm change table
  rw [used_eq, used_eq]
  calc ((table.mapPoints change).1.points.map EncodedPoint.cost).sum
      = (left.map EncodedPoint.cost).sum := (same.map _).sum_eq.symm
    _ ≤ ((table.points.map change).map EncodedPoint.cost).sum :=
        (among.map _).sum_le_sum fun _ _ => Nat.zero_le _
    _ = (table.points.map EncodedPoint.cost).sum := by
        rw [List.map_map]
        exact congrArg List.sum (List.map_congr_left cost)

theorem used_mapPoints_le (cost : ∀ point, (change point).cost = point.cost) :
    (table.mapPoints change).1.used ≤ table.used :=
  used_mapPoints_le_of_forall_mem fun point _ => cost point

end Points

/-- What every table promises: references where a point is, distinct points, and
no more registers taken than there are. -/
structure Consistent (table : SlotTable) : Prop where
  referred : ∀ slot ∈ table.slots, slot.references ≠ 0 ↔ slot.isOccupied = true
  distinct : table.points.Nodup
  fits : table.used ≤ table.capacity

section Consistent

variable {change : EncodedPoint → EncodedPoint} {table : SlotTable}

theorem consistent_iff : table.Consistent ↔
    (∀ slot ∈ table.slots, slot.references ≠ 0 ↔ slot.isOccupied = true) ∧ table.points.Nodup ∧
      table.used ≤ table.capacity := by
  constructor
  · rintro ⟨referred, distinct, fits⟩
    exact ⟨referred, distinct, fits⟩
  · rintro ⟨referred, distinct, fits⟩
    exact ⟨referred, distinct, fits⟩

instance (table : SlotTable) : Decidable table.Consistent :=
  decidable_of_iff _ consistent_iff.symm

theorem Consistent.referred_mapPoints (consistent : table.Consistent) :
    ∀ slot ∈ (table.mapPoints change).1.slots,
      slot.references ≠ 0 ↔ slot.isOccupied = true := by
  refine forall_mem_mapPoints ?free ?grown ?moved consistent.referred
  case free => simp [Slot.free, Slot.isOccupied]
  case grown =>
    intro slot point count holds referred
    have positive := referred.mpr (by simp [Slot.isOccupied, holds])
    simp [Slot.isOccupied, holds]
    omega
  case moved =>
    intro slot point holds referred
    simpa [Slot.isOccupied, holds] using referred

end Consistent

/-- A restriction keeps what a table promises, but for one thing: two slots come
to hold the same point exactly where a slot is restricted to the point of a later
one. Whatever it merges, it loses no reference. -/
theorem restriction_keeps_tables_consistent {masks : MaskTable} (valid : masks.IsValid)
    {table : SlotTable} (consistent : table.Consistent) :
    let restricted := (table.mapPoints masks.restrict).1
    (∀ slot ∈ restricted.slots, slot.references ≠ 0 ↔ slot.isOccupied = true) ∧
      restricted.used ≤ restricted.capacity ∧
      restricted.contents = table.contents.map masks.restrict ∧
      (restricted.Consistent ↔
        table.points.Pairwise fun point later => later ≠ masks.restrict point) := by
  intro restricted
  have cost : ∀ point, (masks.restrict point).cost = point.cost := by
    intro point
    obtain ⟨span, same⟩ := masks.restrict_eq point
    rw [same]
    rfl
  have fits : restricted.used ≤ restricted.capacity := by
    rw [capacity_mapPoints]
    exact (used_mapPoints_le cost).trans consistent.fits
  refine ⟨consistent.referred_mapPoints, fits, contents_mapPoints table, ?_, ?_⟩
  · intro kept
    refine List.pairwise_iff_forall_sublist.mpr ?_
    intro point later pair meets
    have settled : masks.restrict later = later := by
      rw [meets, MaskTable.restrict_restrict valid]
    have twice : 2 ≤ restricted.points.count later := two_le_count_points_mapPoints settled pair meets
    have once := List.nodup_iff_count_le_one.mp kept.distinct later
    omega
  · intro clear
    exact ⟨consistent.referred_mapPoints, nodup_points_mapPoints consistent.distinct clear, fits⟩

/-- Six and seven bytes next to the end of the address space are watched as the
same range. Both masks grow to the whole window, so the slots are merged. -/
theorem restriction_keeps_tables_consistent_merging :
    let six : EncodedPoint := ⟨.write, ⟨0xfffffffffffffff8⟩, .bytes ⟨0x7e⟩, none,
      ⟨⟨0xfffffffffffffff9⟩, ⟨0xffffffffffffffff⟩⟩, 1⟩
    let table : SlotTable := ⟨.watchpoints,
      [⟨some six, 2, none⟩, ⟨some { six with span := .bytes ⟨0xfe⟩ }, 1, none⟩, .free]⟩
    MaskTable.standard.IsValid ∧ table.Consistent ∧
      (table.mapPoints MaskTable.standard.restrict).1.slots =
        [⟨some { six with span := .bytes .full }, 3, none⟩, .free, .free] ∧
      (table.mapPoints MaskTable.standard.restrict).1.Consistent := by
  intro six table
  have valid : MaskTable.standard.IsValid := ⟨[0x01, 0x03, 0x0f, 0xff], by decide⟩
  have consistent : table.Consistent := by decide
  obtain ⟨_, _, _, kept⟩ := restriction_keeps_tables_consistent valid consistent
  exact ⟨valid, consistent, by decide +kernel, kept.mpr (by decide +kernel)⟩

/-- Seven and eight bytes at the last window are watched as the same range, and
the second has the mask of the whole window from the start. The first grows to
it, but looks for it among earlier slots only, and both slots stay. -/
theorem restriction_leaves_equal_points :
    let seven : EncodedPoint := ⟨.write, ⟨0xfffffffffffffff8⟩, .bytes ⟨0x7f⟩, none,
      ⟨⟨0xfffffffffffffff8⟩, ⟨0xffffffffffffffff⟩⟩, 1⟩
    let eight : EncodedPoint := { seven with span := .bytes .full }
    let table : SlotTable := ⟨.watchpoints, [⟨some seven, 1, none⟩, ⟨some eight, 1, none⟩]⟩
    let restricted := (table.mapPoints MaskTable.standard.restrict).1
    let caps := Capabilities.ofInfoWords .aarch64 (some 0x602) (some 0x602)
    encode (.watch .write ⟨0xfffffffffffffff8⟩ 7) caps ⟨none, none⟩ = .ok [seven] ∧
      encode (.watch .write ⟨0xfffffffffffffff8⟩ 8) caps ⟨none, none⟩ = .ok [eight] ∧
      Reached .watchpoints 2 table ∧ table.Consistent ∧ MaskTable.standard.IsValid ∧
      restricted.slots = [⟨some eight, 1, none⟩, ⟨some eight, 1, none⟩] ∧
      ¬restricted.points.Nodup := by
  intro seven eight table restricted caps
  have reached : Reached .watchpoints 2 table :=
    (Reached.empty.insertWith seven () fun state _ => (.ok none, state)).insertWith eight ()
      fun state _ => (.ok none, state)
  refine ⟨?_, ?_, reached, by decide, ⟨[0x01, 0x03, 0x0f, 0xff], by decide⟩, ?_, ?_⟩
  · decide +kernel
  · decide +kernel
  · decide +kernel
  · decide +kernel

end DebugRegisters.SlotTable
