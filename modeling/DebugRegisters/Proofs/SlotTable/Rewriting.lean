import DebugRegisters.Proofs.SlotTable.Merging

/-!
# Changing all points of a table

Slots are settled one after the other, and a slot that is merged gives its
references to one that is settled already. What conserves the references is the
multiset of points: a step maps the points of its slot and leaves the others. The
numbers that are answered need the second invariant, which pairs every settled
slot with the one it was made from.
-/

set_option autoImplicit false

namespace DebugRegisters

inductive Slot.Becomes (change : EncodedPoint → EncodedPoint) (slot : Slot) : Slot → Prop where
  | free (isFree : slot.point = none) : Becomes change slot slot
  | held {point : EncodedPoint} {after : Slot} (holds : slot.point = some point)
      (holding : after.point = some (change point)) : Becomes change slot after
  | merged {point : EncodedPoint} (holds : slot.point = some point)
      (changed : change point ≠ point) : Becomes change slot .free

theorem Slot.Becomes.point_ne_iff {change : EncodedPoint → EncodedPoint} {slot after : Slot}
    (became : slot.Becomes change after) :
    after.point ≠ slot.point ↔ slot.point.map change ≠ slot.point := by
  cases became with
  | free isFree => simp [isFree]
  | held holds holding => simp [holds, holding]
  | merged holds changed => simp [holds, changed, Slot.free]

namespace SlotTable

def referencesTo (table : SlotTable) (test : EncodedPoint → Bool) : Nat :=
  ((table.slots.filter fun slot => slot.point.any test).map Slot.references).sum

section References

variable {table : SlotTable} {change : EncodedPoint → EncodedPoint}

theorem countP_contents (table : SlotTable) (test : EncodedPoint → Bool) :
    table.contents.countP (test ·) = table.referencesTo test := by
  unfold contents referencesTo
  induction table.slots with
  | nil => rfl
  | cons slot rest ih =>
      rw [List.map_cons, List.sum_cons, Multiset.countP_add, ih, List.filter_cons]
      cases holds : slot.point with
      | none => simp [contents_of_unoccupied holds]
      | some point =>
          rw [contents_of_holds holds, Option.any_some]
          cases passes : test point with
          | false =>
              have none : (Multiset.replicate slot.references point).countP (test ·) = 0 := by
                refine Multiset.countP_eq_zero.mpr fun other member => ?_
                rw [Multiset.eq_of_mem_replicate member, passes]
                exact Bool.false_ne_true
              rw [none, Nat.zero_add]
              rfl
          | true =>
              have all : (Multiset.replicate slot.references point).countP (test ·) =
                  slot.references := by
                rw [Multiset.countP_eq_card.mpr fun other member => ?_, Multiset.card_replicate]
                rw [Multiset.eq_of_mem_replicate member, passes]
              rw [all, if_pos rfl, List.map_cons, List.sum_cons]

/-- References are to the changed point what they were to all points that change
into it. -/
theorem referencesTo_mapPoints (table : SlotTable) (change : EncodedPoint → EncodedPoint)
    (point : EncodedPoint) :
    (table.mapPoints change).1.referencesTo (· == point) =
      table.referencesTo fun before => change before == point := by
  rw [← countP_contents, ← countP_contents, contents_mapPoints, Multiset.countP_map,
    Multiset.countP_eq_card_filter]

end References

section Slots

variable {change : EncodedPoint → EncodedPoint} {table : SlotTable} {index : Nat} {slot : Slot}

theorem forall₂_becomes_modify {before done : List Slot}
    (settled : List.Forall₂ (Slot.Becomes change) before done) {earlier : Slot}
    {point : EncodedPoint} (there : done[index]? = some earlier)
    (holds : earlier.point = some point) (count : Slot → Nat) :
    List.Forall₂ (Slot.Becomes change) before
      (done.modify index fun slot => { slot with references := count slot }) := by
  induction settled generalizing index with
  | nil => simp at there
  | @cons slot made rest done became _ ih =>
      cases index with
      | succ index => exact .cons became (ih (by simpa using there))
      | zero =>
          cases there
          refine .cons ?_ ‹_›
          cases became with
          | free isFree => exact absurd (isFree.symm.trans holds) nofun
          | held known holding => exact .held known holding
          | merged => cases holds

theorem forall₂_becomes (change : EncodedPoint → EncodedPoint) (table : SlotTable) :
    List.Forall₂ (Slot.Becomes change) table.slots (table.mapPoints change).1.slots := by
  let Settled : List Slot → List Slot → Prop := fun done rest =>
    ∃ before, before ++ rest = table.slots ∧ List.Forall₂ (Slot.Becomes change) before done
  have ends : Settled (table.mapPoints change).1.slots [] := by
    refine mapPoints_keeps change table Settled ?_ ⟨[], rfl, .nil⟩
    rintro done next rest slot settled ⟨before, split, became⟩
    refine ⟨before ++ [slot], by simpa using split, ?_⟩
    cases settled with
    | kept same =>
        refine List.rel_append became (.cons ?_ .nil)
        cases holds : slot.point with
        | none => exact .free holds
        | some point =>
            rw [holds] at same
            exact .held holds (holds.trans same.symm)
    | merged holds changed there same =>
        exact List.rel_append (forall₂_becomes_modify became there same _)
          (.cons (.merged holds changed) .nil)
    | moved holds => exact List.rel_append became (.cons (.held holds rfl) .nil)
  obtain ⟨before, split, became⟩ := ends
  rw [List.append_nil] at split
  exact split ▸ became

/-- What the slot of a number becomes. -/
theorem exists_get?_mapPoints (there : table.get? index = some slot) :
    ∃ after, (table.mapPoints change).1.get? index = some after ∧ slot.Becomes change after := by
  have became := forall₂_becomes change table
  obtain ⟨inside, rfl⟩ := List.getElem?_eq_some_iff.mp there
  have also : index < (table.mapPoints change).1.slots.length := became.length_eq ▸ inside
  exact ⟨_, List.getElem?_eq_getElem also, became.get inside also⟩

end Slots

section Changed

variable {change : EncodedPoint → EncodedPoint}

/-- The numbers that are answered are those of the slots whose point changes. -/
theorem changed_mapPointsFrom (change : EncodedPoint → EncodedPoint) (done : Array Slot)
    (slots : List Slot) :
    (mapPointsFrom change done slots).2 =
      ((slots.zipIdx done.size).filter fun entry =>
        entry.1.point.map change ≠ entry.1.point).map Prod.snd := by
  induction slots generalizing done with
  | nil => rfl
  | cons slot rest ih =>
      unfold mapPointsFrom
      rw [List.zipIdx_cons, List.filter_cons]
      cases holds : slot.point with
      | none => simp [ih]
      | some point =>
          by_cases fixed : change point = point
          · simp [ih, fixed]
          · dsimp only
            rw [if_neg fixed, ih]
            cases done.findIdx? fun earlier => earlier.holds (change point) with
            | none => simp [fixed]
            | some index => simp [fixed]

theorem changed_mapPoints (change : EncodedPoint → EncodedPoint) (table : SlotTable) :
    (table.mapPoints change).2 =
      (table.slots.zipIdx.filter fun entry =>
        entry.1.point.map change ≠ entry.1.point).map Prod.snd :=
  changed_mapPointsFrom change #[] table.slots

theorem mem_changed_mapPoints_iff {table : SlotTable} {index : Nat} :
    index ∈ (table.mapPoints change).2 ↔
      ∃ slot, table.get? index = some slot ∧ slot.point.map change ≠ slot.point := by
  rw [changed_mapPoints, List.mem_map]
  constructor
  · rintro ⟨⟨slot, position⟩, member, rfl⟩
    obtain ⟨listed, differs⟩ := List.mem_filter.mp member
    exact ⟨slot, List.mem_zipIdx_iff_getElem?.mp listed, by simpa using differs⟩
  · rintro ⟨slot, there, differs⟩
    exact ⟨(slot, index), List.mem_filter.mpr
      ⟨List.mem_zipIdx_iff_getElem?.mpr there, by simpa using differs⟩, rfl⟩

theorem pairwise_changed_mapPoints (change : EncodedPoint → EncodedPoint) (table : SlotTable) :
    (table.mapPoints change).2.Pairwise (· < ·) := by
  rw [changed_mapPoints]
  refine List.Pairwise.sublist (List.filter_sublist.map Prod.snd) ?_
  rw [List.zipIdx_map_snd]
  exact List.pairwise_lt_range' 1 Nat.one_pos

end Changed

/-- Changing all points loses no reference, answers the numbers of the slots it
changed in ascending order, leaves free slots alone and takes no more registers,
where no point that is held comes to take another number of them. -/
theorem rewriting_keeps_references (change : EncodedPoint → EncodedPoint) (table : SlotTable) :
    let rewritten := (table.mapPoints change).1
    let changed := (table.mapPoints change).2
    (∀ point, rewritten.referencesTo (· == point) =
        table.referencesTo fun before => change before == point) ∧
      changed.Pairwise (· < ·) ∧
      (∀ index, index ∈ changed ↔
        (rewritten.get? index).map Slot.point ≠ (table.get? index).map Slot.point) ∧
      (∀ index slot, table.get? index = some slot → slot.point = none →
        rewritten.get? index = some slot) ∧
      ((∀ point ∈ table.points, (change point).cost = point.cost) →
        rewritten.used ≤ table.used) := by
  intro rewritten changed
  refine ⟨referencesTo_mapPoints table change, pairwise_changed_mapPoints change table, ?_, ?_,
    used_mapPoints_le_of_forall_mem⟩
  · intro index
    rw [mem_changed_mapPoints_iff]
    cases there : table.get? index with
    | none =>
        have outside : rewritten.get? index = none := by
          refine List.getElem?_eq_none ?_
          rw [← (forall₂_becomes change table).length_eq]
          exact List.getElem?_eq_none_iff.mp there
        simp [outside]
    | some slot =>
        obtain ⟨after, made, became⟩ := exists_get?_mapPoints there
        rw [show rewritten.get? index = some after from made]
        simpa using became.point_ne_iff.symm
  · intro index slot there isFree
    obtain ⟨after, made, became⟩ := exists_get?_mapPoints there
    cases became with
    | free => exact made
    | held holds => exact absurd (isFree.symm.trans holds) nofun
    | merged holds => exact absurd (isFree.symm.trans holds) nofun

/-- Five, six and seven bytes next to the end of the address space grow to one
window. The references of the second and the third go to the first, and the slot
of an instruction keeps its own. -/
theorem rewriting_keeps_references_window :
    let window : ByteMask → EncodedPoint := fun mask =>
      ⟨.write, ⟨0xfffffffffffffff8⟩, .bytes mask, none, ⟨⟨0xfffffffffffffff9⟩, ⟨0xffffffffffffffff⟩⟩, 1⟩
    let table : SlotTable := ⟨.watchpoints,
      [⟨some (window ⟨0x3e⟩), 2, none⟩, .free, ⟨some (window ⟨0x7e⟩), 1, none⟩,
        ⟨some (window ⟨0xfe⟩), 4, none⟩]⟩
    let rewritten := (table.mapPoints MaskTable.standard.restrict).1
    (table.mapPoints MaskTable.standard.restrict).2 = [0, 2, 3] ∧
      rewritten.referencesTo (· == window .full) = 7 ∧
      (∀ point ∈ table.points, (MaskTable.standard.restrict point).cost = point.cost) ∧
      rewritten.used ≤ table.used := by
  intro window table rewritten
  have cost : ∀ point ∈ table.points, (MaskTable.standard.restrict point).cost = point.cost := by
    decide +kernel
  obtain ⟨references, _, _, _, used⟩ :=
    rewriting_keeps_references MaskTable.standard.restrict table
  refine ⟨by decide +kernel, ?_, cost, used cost⟩
  rw [references]
  decide +kernel

end SlotTable

end DebugRegisters
