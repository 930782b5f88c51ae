import DebugRegisters.Proofs.SlotTable.Undoing
import DebugRegisters.Proofs.SlotTable.Slotwise
import Mathlib.Algebra.GroupWithZero.Nat

/-!
# Room in a table

Where no two slots hold the same point, what a table takes of its bank depends
only on which points it holds. So a point that was given up fits again, in
whichever order the other points have found their slots since.
-/

set_option autoImplicit false

namespace DebugRegisters.SlotTable

def points (table : SlotTable) : List EncodedPoint :=
  table.slots.filterMap Slot.point

section Points

variable {bank : RegisterBank} {table : SlotTable} {index : Nat} {slot : Slot}
  {point : EncodedPoint}

theorem used_eq (table : SlotTable) : table.used = (table.points.map EncodedPoint.cost).sum := by
  unfold used points
  induction table.slots with
  | nil => rfl
  | cons slot rest ih =>
      rw [List.map_cons, List.foldr_cons, ih]
      cases holds : slot.point with
      | none => simp [Slot.cost, holds]
      | some point => simp [Slot.cost, holds]

@[simp] theorem points_empty (bank : RegisterBank) (capacity : Nat) :
    (empty bank capacity).points = [] := by
  simp [points, empty, Slot.free]

/-- An empty table takes points that need no more registers than there are. -/
theorem canAccept_empty_iff {bank : RegisterBank} {capacity : Nat} {points : List EncodedPoint} :
    (empty bank capacity).canAccept points = .ok () ↔
      (points.map EncodedPoint.cost).sum ≤ capacity := by
  have used : (empty bank capacity).used = 0 := by simp [used_eq]
  have absent : ∀ point, (empty bank capacity).find? point = none := by
    intro point
    refine find?_eq_none_iff.mpr fun index slot there holds => ?_
    rw [get?_empty there] at holds
    cases holds
  have needed : (empty bank capacity).neededFor points = (points.map EncodedPoint.cost).sum := by
    simp [neededFor, absent, List.sum]
  simp only [canAccept, available, capacity_empty, used, needed, Nat.sub_zero]
  split
  · next short => simp; omega
  · next fits => simp; omega

theorem length_points_le (table : SlotTable) : table.points.length ≤ table.capacity :=
  List.length_filterMap_le _ _

theorem findFree?_isSome_of_lt (room : table.points.length < table.capacity) :
    table.findFree?.isSome = true := by
  rw [findFree?, List.findIdx?_isSome, List.any_eq_true]
  by_contra full
  have occupied : ∀ slot ∈ table.slots, slot.point.isSome = true := by
    intro slot member
    by_contra isFree
    exact full ⟨slot, member, by simpa [Slot.isOccupied] using isFree⟩
  have all : table.points.length = table.capacity := by
    unfold points capacity
    exact List.filterMap_length_eq_length.mpr occupied
  omega

/-- Registers that are left are free slots, as no point takes less than one. -/
theorem findFree?_isSome_of_fits (fits : point.cost ≤ table.available) :
    table.findFree?.isSome = true := by
  have few : table.points.length ≤ (table.points.map EncodedPoint.cost).sum := by
    have least := List.length_le_sum_of_one_le (table.points.map EncodedPoint.cost) fun cost member => by
      obtain ⟨point, _, rfl⟩ := List.mem_map.mp member
      exact Nat.le_max_right _ _
    rwa [List.length_map] at least
  have positive : 1 ≤ point.cost := Nat.le_max_right _ _
  rw [← used_eq] at few
  unfold available at fits
  exact findFree?_isSome_of_lt (by omega)

theorem IsCounted.mem_points_iff (counted : table.IsCounted) :
    point ∈ table.points ↔ point ∈ table.contents := by
  rw [mem_contents_iff, points, List.mem_filterMap]
  constructor
  · rintro ⟨slot, member, holds⟩
    exact ⟨slot, member, holds, counted.references_pos member holds⟩
  · rintro ⟨slot, member, holds, _⟩
    exact ⟨slot, member, holds⟩

theorem mem_points_iff (kept : table.IsKept bank) : point ∈ table.points ↔ point ∈ table.contents :=
  kept.isCounted.mem_points_iff

theorem Tidy.nodup_points {among : EncodedPoint → Prop} (tidy : table.Tidy among) :
    table.points.Nodup := by
  unfold points List.Nodup
  rw [List.pairwise_filterMap, List.pairwise_iff_getElem]
  intro index other inside also lower first holds second too same
  subst same
  have equal := tidy.apart (List.getElem?_eq_getElem inside) holds (List.getElem?_eq_getElem also) too
  omega

theorem filterMap_point_recount (done : List Slot) (index : Nat) (count : Slot → Nat) :
    (done.modify index fun slot => { slot with references := count slot }).filterMap Slot.point =
      done.filterMap Slot.point := by
  induction done generalizing index with
  | nil => simp
  | cons slot rest ih =>
      cases index with
      | zero => simp [List.filterMap_cons]
      | succ index => simp [List.filterMap_cons, ih]

theorem mem_points_of_get? (there : table.get? index = some slot) (holds : slot.point = some point) :
    point ∈ table.points :=
  List.mem_filterMap.mpr ⟨slot, List.mem_of_getElem? there, holds⟩

theorem notMem_points_of_find? (absent : table.find? point = none) : point ∉ table.points := by
  intro member
  obtain ⟨slot, listed, holds⟩ := List.mem_filterMap.mp member
  obtain ⟨index, there⟩ := List.getElem?_of_mem listed
  exact find?_eq_none_iff.mp absent index slot there holds

theorem points_recount (table : SlotTable) (index : Nat) (count : Slot → Nat) :
    (table.modify index fun slot => { slot with references := count slot }).points = table.points :=
  filterMap_point_recount table.slots index count

end Points

section Used

variable {table : SlotTable}

theorem used_modify {index : Nat} {slot : Slot} (there : table.get? index = some slot)
    (change : Slot → Slot) :
    (table.modify index change).used + slot.cost = table.used + (change slot).cost :=
  sum_map_modify Slot.cost change there

theorem used_recount (table : SlotTable) (index : Nat) (count : Slot → Nat) :
    (table.modify index fun slot => { slot with references := count slot }).used = table.used := by
  rw [used_eq, used_eq, points_recount]

end Used

/-- A table that counts right, whichever banks its points belong to: every point
has one slot and references, and all points together take no more registers than
there are. -/
structure Bounded (capacity : Nat) (table : SlotTable) : Prop where
  counted : table.IsCounted
  tidy : table.Tidy fun _ => True
  sized : table.capacity = capacity
  fits : table.used ≤ capacity

section Bounded

variable {σ : Type} {capacity : Nat} {table after : SlotTable} {point : EncodedPoint}
  {state side : σ} {register : σ → EncodedPoint → Except PointError (Option SlotHandle) × σ}
  {deregister : σ → Option SlotHandle → Except PointError Unit × σ}

theorem bounded_empty (bank : RegisterBank) (capacity : Nat) :
    (empty bank capacity).Bounded capacity where
  counted := (isKept_empty bank capacity).isCounted
  tidy := tidy_empty bank capacity
  sized := capacity_empty bank capacity
  fits := by simp [used_eq]

theorem Bounded.recount (bounded : table.Bounded capacity) {index : Nat} {slot : Slot}
    (there : table.get? index = some slot) (holds : slot.point = some point) {count : Slot → Nat}
    (positive : 0 < count slot) :
    (table.modify index fun slot => { slot with references := count slot }).Bounded capacity where
  counted := forall_mem_modify bounded.counted fun other found => by
    rw [there] at found
    cases found
    exact .inr ⟨by simp [Slot.isOccupied, holds], positive⟩
  tidy := bounded.tidy.recount index count
  sized := (capacity_modify _ _ _).trans bounded.sized
  fits := (used_recount table index count).trans_le bounded.fits

theorem Bounded.free (bounded : table.Bounded capacity) {index : Nat} {slot : Slot}
    (there : table.get? index = some slot) :
    (table.modify index fun _ => .free).Bounded capacity where
  counted := forall_mem_modify bounded.counted fun _ _ => .inl rfl
  tidy := bounded.tidy.modify fun _ _ _ holds => nomatch holds
  sized := (capacity_modify _ _ _).trans bounded.sized
  fits := by
    have counted := used_modify there fun _ => .free
    have nothing : Slot.free.cost = 0 := rfl
    have fewer := bounded.fits
    omega

theorem Inserts.bounded {result : Except PointError Insertion} (bounded : table.Bounded capacity)
    (inserted : Inserts table point state register (result, after, side)) :
    after.Bounded capacity := by
  cases inserted with
  | @shared index slot found there holds =>
      exact bounded.recount there holds (Nat.succ_pos slot.references)
  | full | refused => exact bounded
  | @taken index slot handle _ absent free there isFree registered fits =>
      refine ⟨forall_mem_modify bounded.counted fun _ _ => .inr ⟨rfl, Nat.one_pos⟩,
        bounded.tidy.modify fun slot other _ holds => ?_,
        (capacity_modify _ _ _).trans bounded.sized, ?_⟩
      · cases holds
        exact ⟨trivial, fun position twin _ also => find?_eq_none_iff.mp absent position twin also⟩
      · have counted := used_modify there fun _ => ⟨some point, 1, handle⟩
        have nothing : slot.cost = 0 := by simp [Slot.cost, isFree]
        have added : Slot.cost ⟨some point, 1, handle⟩ = point.cost := rfl
        have fewer := bounded.fits
        have sized := bounded.sized
        unfold available at fits
        omega

theorem Removes.bounded {result : Except PointError Removal} (bounded : table.Bounded capacity)
    (removed : Removes table point state deregister (result, after, side)) :
    after.Bounded capacity := by
  cases removed with
  | absent | refused => exact bounded
  | @shared index slot found there holds more =>
      exact bounded.recount there holds (Nat.sub_pos_of_lt more)
  | freed _ there => exact bounded.free there

/-- No other slot holds the point of a slot that is freed. -/
theorem Bounded.notMem_freed (bounded : table.Bounded capacity) {index : Nat} {slot : Slot}
    (there : table.get? index = some slot) (holds : slot.point = some point) :
    point ∉ (table.modify index fun _ => .free).contents := by
  intro member
  obtain ⟨twin, listed, too, _⟩ := mem_contents_iff.mp member
  obtain ⟨position, also⟩ := List.mem_iff_getElem?.mp listed
  change (table.modify index fun _ => .free).get? position = some twin at also
  by_cases here : position = index
  · subst here
    rw [get?_modify_self, there] at also
    cases also
    cases too
  · rw [get?_modify_of_ne _ _ here] at also
    exact here (bounded.tidy.apart also too there holds)

/-- A slot's references are all there are to its point. -/
theorem Bounded.count_contents (bounded : table.Bounded capacity) {index : Nat} {slot : Slot}
    (there : table.get? index = some slot) (holds : slot.point = some point) :
    table.contents.count point = slot.references := by
  have others := bounded.notMem_freed there holds
  have counted := congrArg (Multiset.count point) (contents_modify there fun _ => .free)
  rw [Multiset.count_add, Multiset.count_add, Multiset.count_eq_zero_of_notMem others,
    contents_free, Multiset.count_zero, contents_of_holds holds, Multiset.count_replicate_self]
    at counted
  omega

end Bounded

/-- A table in good order: no two slots hold the same point, and all points
together take no more than the bank has. -/
structure Orderly (bank : RegisterBank) (capacity : Nat) (table : SlotTable) : Prop where
  kept : table.IsKept bank
  tidy : table.Tidy fun _ => True
  sized : table.capacity = capacity
  fits : table.used ≤ capacity

section Orderly

variable {σ : Type} {bank : RegisterBank} {capacity : Nat} {table after : SlotTable}
  {point : EncodedPoint} {state side : σ}
  {register : σ → EncodedPoint → Except PointError (Option SlotHandle) × σ}
  {deregister : σ → Option SlotHandle → Except PointError Unit × σ}

theorem Orderly.bounded (orderly : table.Orderly bank capacity) : table.Bounded capacity where
  counted := orderly.kept.isCounted
  tidy := orderly.tidy
  sized := orderly.sized
  fits := orderly.fits

theorem Bounded.orderly (bounded : table.Bounded capacity) (kept : table.IsKept bank) :
    table.Orderly bank capacity where
  kept := kept
  tidy := bounded.tidy
  sized := bounded.sized
  fits := bounded.fits

theorem orderly_empty (bank : RegisterBank) (capacity : Nat) :
    (empty bank capacity).Orderly bank capacity :=
  (bounded_empty bank capacity).orderly (isKept_empty bank capacity)

theorem Inserts.orderly {result : Except PointError Insertion} (orderly : table.Orderly bank capacity)
    (sorted : point.kind.bank = bank)
    (inserted : Inserts table point state register (result, after, side)) :
    after.Orderly bank capacity :=
  (inserted.bounded orderly.bounded).orderly (inserted.isKept orderly.kept sorted)

theorem Orderly.free (orderly : table.Orderly bank capacity) {index : Nat} {slot : Slot}
    (there : table.get? index = some slot) :
    (table.modify index fun _ => .free).Orderly bank capacity :=
  (orderly.bounded.free there).orderly (orderly.kept.modify fun _ _ => .inl rfl)

theorem Removes.orderly {result : Except PointError Removal} (orderly : table.Orderly bank capacity)
    (removed : Removes table point state deregister (result, after, side)) :
    after.Orderly bank capacity :=
  (removed.bounded orderly.bounded).orderly (removed.isKept orderly.kept)

/-- A point fits where a table in order would hold it once more. -/
theorem Orderly.room {other : SlotTable} (orderly : table.Orderly bank capacity)
    (holding : other.Orderly bank capacity) (gained : other.contents = point ::ₘ table.contents)
    (absent : point ∉ table.contents) :
    table.findFree?.isSome = true ∧ point.cost ≤ table.available := by
  have members : ∀ held, held ∈ other.points ↔ held ∈ point :: table.points := fun held => by
    rw [mem_points_iff holding.kept, gained, Multiset.mem_cons, List.mem_cons,
      mem_points_iff orderly.kept]
  have fresh : point ∉ table.points := fun member => absent ((mem_points_iff orderly.kept).mp member)
  have same : other.points.Perm (point :: table.points) :=
    (List.perm_ext_iff_of_nodup holding.tidy.nodup_points
      (List.nodup_cons.mpr ⟨fresh, orderly.tidy.nodup_points⟩)).mpr members
  have used : other.used = point.cost + table.used := by
    rw [used_eq, used_eq, (same.map EncodedPoint.cost).sum_eq, List.map_cons, List.sum_cons]
  have sizes : table.points.length < other.points.length := by
    rw [same.length_eq, List.length_cons]
    exact Nat.lt_succ_self _
  have few := other.length_points_le
  have fits := holding.fits
  refine ⟨findFree?_isSome_of_lt ?_, ?_⟩
  · rw [orderly.sized, ← holding.sized]
    omega
  · unfold available
    rw [orderly.sized]
    omega

theorem Orderly.notMem_freed (orderly : table.Orderly bank capacity) {index : Nat} {slot : Slot}
    (there : table.get? index = some slot) (holds : slot.point = some point) :
    point ∉ (table.modify index fun _ => .free).contents :=
  orderly.bounded.notMem_freed there holds

theorem Orderly.count_contents (orderly : table.Orderly bank capacity) {index : Nat} {slot : Slot}
    (there : table.get? index = some slot) (holds : slot.point = some point) :
    table.contents.count point = slot.references :=
  orderly.bounded.count_contents there holds

end Orderly

end DebugRegisters.SlotTable
