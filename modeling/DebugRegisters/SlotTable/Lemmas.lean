import DebugRegisters.SlotTable

/-!
# What the operations on slot tables do

A table is seen through `get?`. Looking a point up answers a slot that holds
it, or tells that no slot does. Taking and giving up a slot changes that slot
alone, and no operation changes the number of slots or the bank.
-/

set_option autoImplicit false

namespace DebugRegisters

namespace SlotTable

@[simp] theorem capacity_empty (bank : RegisterBank) (capacity : Nat) :
    (empty bank capacity).capacity = capacity := by
  simp [empty, SlotTable.capacity]

/-- Every slot of a new table is free. -/
theorem get?_empty {bank : RegisterBank} {capacity index : Nat} {slot : Slot}
    (found : (empty bank capacity).get? index = some slot) : slot = .free := by
  unfold empty get? at found
  rw [List.getElem?_replicate] at found
  split at found
  · exact (Option.some.inj found).symm
  · cases found

section Modify

@[simp] theorem capacity_modify (table : SlotTable) (index : Nat) (change : Slot → Slot) :
    (table.modify index change).capacity = table.capacity := by
  simp [modify, capacity]

@[simp] theorem get?_modify_self (table : SlotTable) (index : Nat) (change : Slot → Slot) :
    (table.modify index change).get? index = (table.get? index).map change := by
  simp [modify, get?]

@[simp] theorem get?_modify_of_ne (table : SlotTable) {index other : Nat} (change : Slot → Slot)
    (different : other ≠ index) : (table.modify index change).get? other = table.get? other := by
  simp [modify, get?, Ne.symm different]

end Modify

section Find

/-- A slot that is looked up by a test is the first one that passes it. -/
theorem get?_of_findIdx? {table : SlotTable} {test : Slot → Bool} {index : Nat}
    (found : table.slots.findIdx? test = some index) :
    ∃ slot, table.get? index = some slot ∧ test slot = true := by
  obtain ⟨inside, passes, _⟩ := List.findIdx?_eq_some_iff_getElem.mp found
  exact ⟨table.slots[index], List.getElem?_eq_getElem inside, passes⟩

theorem get?_of_find? {table : SlotTable} {point : EncodedPoint} {index : Nat}
    (found : table.find? point = some index) :
    ∃ slot, table.get? index = some slot ∧ slot.point = some point := by
  obtain ⟨slot, there, holds⟩ := get?_of_findIdx? found
  exact ⟨slot, there, by simpa [Slot.holds] using holds⟩

theorem find?_eq_none_iff {table : SlotTable} {point : EncodedPoint} :
    table.find? point = none ↔
      ∀ index slot, table.get? index = some slot → slot.point ≠ some point := by
  unfold find?
  rw [List.findIdx?_eq_none_iff]
  constructor
  · intro absent index slot there
    have missed := absent slot (List.mem_of_getElem? there)
    simpa [Slot.holds] using missed
  · intro absent slot member
    obtain ⟨index, there⟩ := List.mem_iff_getElem?.mp member
    simpa [Slot.holds] using absent index slot there

theorem findHandle?_isSome_iff {table : SlotTable} {handle : SlotHandle} :
    (table.findHandle? handle).isSome = true ↔
      ∃ index slot, table.get? index = some slot ∧ slot.isOccupied = true ∧
        slot.handle = some handle := by
  unfold findHandle?
  rw [List.findIdx?_isSome, List.any_eq_true]
  constructor
  · rintro ⟨slot, member, passes⟩
    obtain ⟨index, there⟩ := List.mem_iff_getElem?.mp member
    exact ⟨index, slot, there, by simpa using passes⟩
  · rintro ⟨index, slot, there, occupied, kept⟩
    exact ⟨slot, List.mem_of_getElem? there, by simp [occupied, kept]⟩

theorem get?_of_findFree? {table : SlotTable} {index : Nat} (found : table.findFree? = some index) :
    ∃ slot, table.get? index = some slot ∧ slot.point = none := by
  obtain ⟨slot, there, isFree⟩ := get?_of_findIdx? found
  exact ⟨slot, there, by simpa [Slot.isOccupied] using isFree⟩

theorem mem_occupied_iff {table : SlotTable} {index : Nat} {slot : Slot} :
    (index, slot) ∈ table.occupied ↔ table.get? index = some slot ∧ slot.isOccupied = true := by
  unfold occupied get?
  rw [List.mem_filter, List.mem_map]
  constructor
  · rintro ⟨⟨⟨other, position⟩, member, same⟩, isOccupied⟩
    cases same
    exact ⟨List.mem_zipIdx_iff_getElem?.mp member, isOccupied⟩
  · rintro ⟨there, isOccupied⟩
    exact ⟨⟨(slot, index), List.mem_zipIdx_iff_getElem?.mpr there, rfl⟩, isOccupied⟩

theorem nodup_occupied (table : SlotTable) : (table.occupied.map Prod.fst).Nodup := by
  refine List.Nodup.sublist (List.filter_sublist.map Prod.fst) ?_
  rw [List.map_map]
  change (table.slots.zipIdx.map Prod.snd).Nodup
  rw [List.zipIdx_map_snd]
  exact List.nodup_range' 1

end Find

section Insert

variable {σ : Type} {register : σ → EncodedPoint → Except PointError (Option SlotHandle) × σ}

/-- A point that is held gains a reference, and the kernel is not called. -/
theorem insertWith_of_held {table : SlotTable} {point : EncodedPoint} {index : Nat}
    (held : table.find? point = some index) (state : σ) :
    table.insertWith point state register =
      (.ok ⟨index, false⟩,
        table.modify index fun slot => { slot with references := slot.references + 1 }, state) := by
  simp [insertWith, held]

@[simp] theorem capacity_insertWith (table : SlotTable) (point : EncodedPoint) (state : σ) :
    (table.insertWith point state register).2.1.capacity = table.capacity := by
  unfold insertWith
  split
  · simp
  · split
    · rfl
    · split <;> simp

end Insert

section Remove

variable {σ : Type} {deregister : σ → Option SlotHandle → Except PointError Unit × σ}

/-- A point that is not held cannot be removed, and the kernel is not called. -/
theorem removeWith_of_absent {table : SlotTable} {point : EncodedPoint}
    (absent : table.find? point = none) (state : σ) :
    table.removeWith point state deregister =
      (.error (.pointNotFound point.kind point.watched.start), table, state) := by
  simp [removeWith, absent]

@[simp] theorem capacity_removeWith (table : SlotTable) (point : EncodedPoint) (state : σ) :
    (table.removeWith point state deregister).2.1.capacity = table.capacity := by
  unfold removeWith
  split
  · rfl
  · dsimp only
    split
    · simp
    · split <;> simp

end Remove

section MapPoints

theorem size_mapPointsFrom (change : EncodedPoint → EncodedPoint) (done : Array Slot)
    (slots : List Slot) :
    (mapPointsFrom change done slots).1.size = done.size + slots.length := by
  induction slots generalizing done with
  | nil => simp [mapPointsFrom]
  | cons slot rest ih =>
      unfold mapPointsFrom
      split
      · rw [ih, Array.size_push, List.length_cons]
        omega
      · split
        · rw [ih, Array.size_push, List.length_cons]
          omega
        · dsimp only
          rw [ih]
          split <;> simp only [Array.size_push, Array.size_modify, List.length_cons] <;> omega

@[simp] theorem capacity_mapPoints (table : SlotTable) (change : EncodedPoint → EncodedPoint) :
    (table.mapPoints change).1.capacity = table.capacity := by
  simp [mapPoints, capacity, size_mapPointsFrom]

/-- A change that alters no held point changes no slot. -/
theorem mapPointsFrom_of_fixed {change : EncodedPoint → EncodedPoint} {done : Array Slot}
    {slots : List Slot}
    (fixed : ∀ slot ∈ slots, ∀ point, slot.point = some point → change point = point) :
    mapPointsFrom change done slots = (done ++ slots, []) := by
  induction slots generalizing done with
  | nil => simp [mapPointsFrom]
  | cons slot rest ih =>
      have later := fun other member => fixed other (List.mem_cons_of_mem _ member)
      unfold mapPointsFrom
      split
      · rw [ih later]
        simp
      · next point held =>
          rw [if_pos (fixed slot List.mem_cons_self point held), ih later]
          simp

/-- What a change of all points makes of the next slot, behind those already
done. -/
inductive Settles (change : EncodedPoint → EncodedPoint) (done : List Slot) (slot : Slot) :
    List Slot → Prop where
  /-- The slot is free, or its point stays as it is. -/
  | kept (same : slot.point.map change = slot.point) : Settles change done slot (done ++ [slot])
  /-- An earlier slot holds the changed point already. -/
  | merged {index : Nat} {earlier : Slot} {point : EncodedPoint} (holds : slot.point = some point)
      (changed : change point ≠ point) (there : done[index]? = some earlier)
      (same : earlier.point = some (change point)) :
      Settles change done slot
        (done.modify index (fun earlier =>
          { earlier with references := earlier.references + slot.references }) ++ [.free])
  /-- The changed point is new. -/
  | moved {point : EncodedPoint} (holds : slot.point = some point) (changed : change point ≠ point)
      (absent : ∀ earlier ∈ done, earlier.point ≠ some (change point)) :
      Settles change done slot (done ++ [{ slot with point := some (change point) }])

theorem settles (change : EncodedPoint → EncodedPoint) (done : Array Slot) (slot : Slot)
    (rest : List Slot) :
    ∃ next : Array Slot, Settles change done.toList slot next.toList ∧
      (mapPointsFrom change done (slot :: rest)).1 = (mapPointsFrom change next rest).1 := by
  cases holds : slot.point with
  | none =>
      refine ⟨done.push slot, ?_, by simp [mapPointsFrom, holds]⟩
      rw [Array.toList_push]
      exact .kept (by simp [holds])
  | some point =>
      by_cases fixed : change point = point
      · refine ⟨done.push slot, ?_, by simp [mapPointsFrom, holds, fixed]⟩
        rw [Array.toList_push]
        exact .kept (by simp [holds, fixed])
      · cases found : done.findIdx? fun earlier => earlier.holds (change point) with
        | some index =>
            obtain ⟨inside, passes, _⟩ := Array.findIdx?_eq_some_iff_getElem.mp found
            have there : done.toList[index]? = some done[index] := by simp [inside]
            have same : done[index].point = some (change point) := by simpa [Slot.holds] using passes
            refine ⟨_, ?_, by simp only [mapPointsFrom, holds, fixed, if_false, found]; rfl⟩
            simpa using Settles.merged holds fixed there same
        | none =>
            refine ⟨_, ?_, by simp only [mapPointsFrom, holds, fixed, if_false, found]; rfl⟩
            have absent : ∀ earlier ∈ done.toList, earlier.point ≠ some (change point) := by
              intro earlier member
              have missed := Array.findIdx?_eq_none_iff.mp found earlier (Array.mem_toList_iff.mp member)
              simpa [Slot.holds] using missed
            simpa using Settles.moved holds fixed absent

/-- What holds before the first slot, and stays so while slot after slot is
settled, holds of the changed table. -/
theorem mapPoints_keeps (change : EncodedPoint → EncodedPoint) (table : SlotTable)
    (holds : List Slot → List Slot → Prop)
    (step : ∀ {done next rest : List Slot} {slot : Slot}, Settles change done slot next →
      holds done (slot :: rest) → holds next rest)
    (start : holds [] table.slots) : holds (table.mapPoints change).1.slots [] := by
  have all : ∀ (rest : List Slot) (done : Array Slot), holds done.toList rest →
      holds (mapPointsFrom change done rest).1.toList [] := by
    intro rest
    induction rest with
    | nil => exact fun _ before => before
    | cons slot rest ih =>
        intro done before
        obtain ⟨next, settled, same⟩ := settles change done slot rest
        rw [same]
        exact ih next (step settled before)
  exact all table.slots #[] start

end MapPoints

/-- Setting a handle touches no point and no reference count. -/
theorem get?_setHandle_self (table : SlotTable) (index : Nat) (handle : Option SlotHandle) :
    (table.setHandle index handle).get? index =
      (table.get? index).map fun slot => { slot with handle } :=
  get?_modify_self _ _ _

theorem get?_setHandle_of_ne (table : SlotTable) {index other : Nat} (handle : Option SlotHandle)
    (different : other ≠ index) : (table.setHandle index handle).get? other = table.get? other :=
  get?_modify_of_ne _ _ different

end SlotTable

end DebugRegisters
