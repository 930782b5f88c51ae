import DebugRegisters.Proofs.SlotTable.Undoing
import DebugRegisters.Proofs.SlotTable.Slotwise

/-!
# Dropping points

What a table loses when points are dropped from it, as far as they are held. A
drop touches the first slot of its point and no other, and leaves alone what is
free. So the order of drops does not matter, even where a point is held twice, and
a point that was inserted can be dropped after any others.
-/

set_option autoImplicit false

namespace DebugRegisters

def Slot.released (slot : Slot) : Slot :=
  if 1 < slot.references then { slot with references := slot.references - 1 } else .free

theorem Slot.released_cases (slot : Slot) :
    slot.released.point = slot.point ∨ slot.released.point = none := by
  unfold released
  split
  · exact .inl rfl
  · exact .inr rfl

namespace SlotTable

/-- The table of a bank after a point was dropped from its own bank. -/
def dropFrom (bank : RegisterBank) (table : SlotTable) (point : EncodedPoint) : SlotTable :=
  if point.kind.bank = bank then (table.drop point).2 else table

section Removal

variable {σ : Type} {table after : SlotTable} {point : EncodedPoint} {state side : σ}

theorem Removes.eq_drop {deregister : σ → Option SlotHandle → Except PointError Unit × σ}
    {removal : Removal}
    (removed : table.Removes point state deregister (.ok removal, after, side)) :
    after = (table.drop point).2 := by
  cases removed with
  | shared found there holds more => rw [drop_of_shared found (by rwa [there])]
  | freed found there holds last deregistered =>
      rw [drop_of_last found (by rw [there]; exact Nat.not_lt.mpr last)]

end Removal

section Single

variable {table : SlotTable} {point other : EncodedPoint} {index : Nat} {slot : Slot}

theorem drop_of_held (held : table.find? point = some index) :
    (table.drop point).2 = table.modify index Slot.released := by
  obtain ⟨slot, there, holds⟩ := get?_of_find? held
  have one : ∀ change : Slot → Slot, change slot = slot.released →
      table.modify index change = table.modify index Slot.released := by
    intro change same
    unfold modify
    congr 1
    refine List.ext_getElem? fun position => ?_
    rw [List.getElem?_modify, List.getElem?_modify]
    by_cases here : index = position
    · subst here
      change table.slots[index]? = some slot at there
      simp [there, same]
    · simp [here]
  by_cases more : 1 < slot.references
  · rw [drop_of_shared held (by rwa [there])]
    exact one _ (if_pos more).symm
  · rw [drop_of_last held (by rwa [there])]
    exact one _ (if_neg more).symm

/-- A free slot stays as it is. -/
theorem get?_drop_of_free (there : table.get? index = some slot) (isFree : slot.point = none) :
    (table.drop point).2.get? index = some slot := by
  cases held : table.find? point with
  | none => rw [drop_of_absent held, there]
  | some position =>
      obtain ⟨holder, found, holds⟩ := get?_of_find? held
      have different : index ≠ position := by
        rintro rfl
        rw [there] at found
        cases found
        exact absurd (isFree.symm.trans holds) nofun
      rw [drop_of_held held, get?_modify_of_ne _ _ different, there]

theorem find?_drop_of_ne (different : other ≠ point) :
    (table.drop point).2.find? other = table.find? other := by
  cases held : table.find? point with
  | none => rw [drop_of_absent held]
  | some index =>
      obtain ⟨slot, there, holds⟩ := get?_of_find? held
      rw [drop_of_held held]
      refine find?_modify_of_holds fun before found => ?_
      rw [there] at found
      cases found
      have misses : slot.holds other = false := by simp [Slot.holds, holds, Ne.symm different]
      rw [misses]
      rcases slot.released_cases with same | none
      · simpa [Slot.holds, same] using misses
      · simp [Slot.holds, none]

theorem modify_comm (table : SlotTable) {index other : Nat} (different : index ≠ other)
    (first second : Slot → Slot) :
    (table.modify index first).modify other second =
      (table.modify other second).modify index first := by
  unfold modify
  congr 1
  refine List.ext_getElem? fun position => ?_
  simp only [List.getElem?_modify]
  cases table.slots[position]? with
  | none => rfl
  | some slot =>
      by_cases here : index = position
      · simp [here, show other ≠ position from fun same => different (here.trans same.symm)]
      · simp [here]

/-- Two points can be dropped in either order. -/
theorem drop_comm (table : SlotTable) (point other : EncodedPoint) :
    ((table.drop point).2.drop other).2 = ((table.drop other).2.drop point).2 := by
  by_cases different : point = other
  · rw [different]
  have first : (table.drop point).2.find? other = table.find? other :=
    find?_drop_of_ne (Ne.symm different)
  have second : (table.drop other).2.find? point = table.find? point :=
    find?_drop_of_ne different
  cases held : table.find? point with
  | none =>
      rw [held] at second
      rw [drop_of_absent held, drop_of_absent second]
  | some index =>
      cases also : table.find? other with
      | none =>
          rw [also] at first
          rw [drop_of_absent also, drop_of_absent first]
      | some position =>
          obtain ⟨slot, there, holds⟩ := get?_of_find? held
          obtain ⟨twin, found, too⟩ := get?_of_find? also
          have apart : index ≠ position := by
            rintro rfl
            rw [there] at found
            cases found
            exact different (Option.some.inj (holds.symm.trans too))
          rw [held] at second
          rw [also] at first
          rw [drop_of_held first, drop_of_held second, drop_of_held held, drop_of_held also,
            modify_comm table apart]

/-- Dropping a point right after its insertion. -/
theorem Inserts.drop_eq {σ : Type} {bank : RegisterBank} {taken : SlotTable} {state side : σ}
    {register : σ → EncodedPoint → Except PointError (Option SlotHandle) × σ}
    {insertion : Insertion} (kept : table.IsKept bank)
    (inserted : table.Inserts point state register (.ok insertion, taken, side)) :
    (taken.drop point).2 = table := by
  have removed := removes taken point () fun state _ => (.ok (), state)
  have held := inserted.find?_isSome
  cases outcome : taken.removeWith point () fun state _ => (.ok (), state) with
  | mk result rest =>
      obtain ⟨restored, _⟩ := rest
      rw [outcome] at removed
      have dropped : (taken.drop point).2 = restored := by
        unfold drop
        rw [outcome]
      rw [dropped]
      cases result with
      | ok removal => exact (inserted.undone kept removed).1
      | error error =>
          cases removed with
          | absent missing =>
              rw [held] at missing
              cases missing
          | refused _ _ refused => cases refused

end Single

section Several

variable {bank : RegisterBank} {table : SlotTable} {point : EncodedPoint}
  {points others : List EncodedPoint} {index : Nat} {slot : Slot}

instance (bank : RegisterBank) : RightCommutative (dropFrom bank) where
  right_comm table point other := by
    unfold dropFrom
    split <;> split <;> first | rfl | exact drop_comm table point other

theorem foldl_dropFrom_perm (same : points.Perm others) (table : SlotTable) :
    points.foldl (dropFrom bank) table = others.foldl (dropFrom bank) table :=
  same.foldl_eq table

theorem get?_foldl_dropFrom_of_free (there : table.get? index = some slot)
    (isFree : slot.point = none) :
    (points.foldl (dropFrom bank) table).get? index = some slot := by
  induction points generalizing table with
  | nil => exact there
  | cons point rest ih =>
      refine ih ?_
      unfold dropFrom
      split
      · exact get?_drop_of_free there isFree
      · exact there

/-- A point that is dropped was held once more before, or not at all. -/
theorem drop_contents (kept : table.IsKept bank) :
    (table.drop point).2.IsKept bank ∧
      table.contents =
        (table.drop point).2.contents + if (table.find? point).isSome then {point} else 0 := by
  have removed := removes table point () fun state _ => (.ok (), state)
  have found : ∀ outcome, table.removeWith point () (fun state _ => (.ok (), state)) = outcome →
      (table.drop point).2 = outcome.2.1 := fun outcome same => same ▸ rfl
  cases outcome : table.removeWith point () fun state _ => (.ok (), state) with
  | mk result rest =>
      obtain ⟨after, _⟩ := rest
      rw [outcome] at removed
      rw [found _ outcome]
      refine ⟨removed.isKept kept, ?_⟩
      cases result with
      | ok removal =>
          have held : (table.find? point).isSome = true := by
            cases removed with
            | shared found | freed found => rw [found, Option.isSome_some]
          rw [if_pos held, removed.contents kept, add_comm, Multiset.singleton_add]
      | error error =>
          cases removed with
          | absent missing => simp [missing]
          | refused found there refused => cases refused

/-- What is taken away when points of a bank are dropped: each as often as it was
still held, and so the first if it was. -/
theorem contents_foldl_dropFrom (kept : table.IsKept bank) {points : List EncodedPoint}
    (sorted : ∀ point ∈ points, point.kind.bank = bank) :
    ∃ removed : Multiset EncodedPoint, removed ≤ ↑points ∧
      table.contents = removed + (points.foldl (dropFrom bank) table).contents ∧
      ∀ point ∈ points.head?, (table.find? point).isSome = true → point ∈ removed := by
  induction points generalizing table with
  | nil => exact ⟨0, le_refl _, (zero_add _).symm, nofun⟩
  | cons point rest ih =>
      have here : table.dropFrom bank point = (table.drop point).2 :=
        if_pos (sorted point List.mem_cons_self)
      obtain ⟨later, counted⟩ := @drop_contents bank table point kept
      obtain ⟨removed, few, split, _⟩ :=
        ih later fun other member => sorted other (List.mem_cons_of_mem _ member)
      rw [List.foldl_cons, here]
      refine ⟨removed + if (table.find? point).isSome then {point} else 0, ?_, ?_, ?_⟩
      · rw [← Multiset.cons_coe, ← Multiset.singleton_add,
          add_comm ({point} : Multiset EncodedPoint)]
        refine add_le_add few ?_
        split
        · exact le_refl _
        · exact Multiset.zero_le _
      · rw [counted, split]
        ac_rfl
      · intro first given found
        cases given
        rw [if_pos found]
        exact Multiset.mem_add.mpr (.inr (Multiset.mem_singleton_self _))

theorem foldl_dropFrom_of_ne {points : List EncodedPoint}
    (others : ∀ point ∈ points, point.kind.bank ≠ bank) (table : SlotTable) :
    points.foldl (dropFrom bank) table = table := by
  induction points with
  | nil => rfl
  | cons point rest ih =>
      have apart : table.dropFrom bank point = table := if_neg (others point List.mem_cons_self)
      rw [List.foldl_cons, apart]
      exact ih fun other member => others other (List.mem_cons_of_mem _ member)

end Several

end SlotTable

end DebugRegisters
