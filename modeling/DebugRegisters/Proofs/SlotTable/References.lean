import DebugRegisters.Proofs.SlotTable.Room

/-!
# Slot tables as bounded multisets

A table that was empty once, and was changed by insertions and removals with
whatever answers from the kernel's side, holds a multiset of points: an insertion
adds a point to it and a removal takes one away. Its distinct points never take
more registers than there are, and the kernel's side is called for the first
reference to a point and for the last one, never in between.
-/

set_option autoImplicit false

namespace DebugRegisters.SlotTable

def spent (points : Multiset EncodedPoint) : Nat :=
  (points.dedup.map EncodedPoint.cost).sum

/-- The tables that changes make of an empty one, whatever the kernel's side does
on its own state and answers. -/
inductive Reached (bank : RegisterBank) (capacity : Nat) : SlotTable → Prop where
  | empty : Reached bank capacity (.empty bank capacity)
  | insertWith {σ : Type} {table : SlotTable} (reached : Reached bank capacity table)
      (point : EncodedPoint) (state : σ)
      (register : σ → EncodedPoint → Except PointError (Option SlotHandle) × σ) :
      Reached bank capacity (table.insertWith point state register).2.1
  | removeWith {σ : Type} {table : SlotTable} (reached : Reached bank capacity table)
      (point : EncodedPoint) (state : σ)
      (deregister : σ → Option SlotHandle → Except PointError Unit × σ) :
      Reached bank capacity (table.removeWith point state deregister).2.1
  | setHandle {table : SlotTable} (reached : Reached bank capacity table) {index : Nat} {slot : Slot}
      (there : table.get? index = some slot) (isOccupied : slot.isOccupied = true)
      (handle : Option SlotHandle) : Reached bank capacity (table.setHandle index handle)
  | releaseAll {table : SlotTable} (reached : Reached bank capacity table) :
      Reached bank capacity table.releaseAll.2

def SameElsewhere (index : Nat) (table other : SlotTable) : Prop :=
  ∀ position ≠ index, other.get? position = table.get? position

inductive AddsReference {σ : Type} (capacity : Nat) (table : SlotTable) (point : EncodedPoint)
    (state : σ) (register : σ → EncodedPoint → Except PointError (Option SlotHandle) × σ) :
    Except PointError Insertion × SlotTable × σ → Prop where
  | present {index : Nat} {slot : Slot} {after : SlotTable} (member : point ∈ table.contents)
      (before : table.get? index = some slot) (holds : slot.point = some point)
      (now : after.get? index = some { slot with references := slot.references + 1 })
      (elsewhere : SameElsewhere index table after)
      (contents : after.contents = point ::ₘ table.contents) :
      AddsReference capacity table point state register (.ok ⟨index, false⟩, after, state)
  | crowded (absent : point ∉ table.contents)
      (full : capacity < spent table.contents + point.cost) :
      AddsReference capacity table point state register
        (.error (.capacityExceeded point.kind point.cost (capacity - spent table.contents)),
          table, state)
  | refused {error : PointError} {side : σ} (absent : point ∉ table.contents)
      (fits : spent table.contents + point.cost ≤ capacity)
      (registered : register state point = (.error error, side)) :
      AddsReference capacity table point state register (.error error, table, side)
  | taken {index : Nat} {handle : Option SlotHandle} {after : SlotTable} {side : σ}
      (absent : point ∉ table.contents) (fits : spent table.contents + point.cost ≤ capacity)
      (registered : register state point = (.ok handle, side))
      (before : table.get? index = some .free)
      (now : after.get? index = some ⟨some point, 1, handle⟩)
      (elsewhere : SameElsewhere index table after)
      (contents : after.contents = point ::ₘ table.contents) :
      AddsReference capacity table point state register (.ok ⟨index, true⟩, after, side)

inductive DropsReference {σ : Type} (table : SlotTable) (point : EncodedPoint) (state : σ)
    (deregister : σ → Option SlotHandle → Except PointError Unit × σ) :
    Except PointError Removal × SlotTable × σ → Prop where
  | absent (absent : point ∉ table.contents) :
      DropsReference table point state deregister
        (.error (.pointNotFound point.kind point.watched.start), table, state)
  | shared {index : Nat} {slot : Slot} {after : SlotTable} (more : 1 < table.contents.count point)
      (before : table.get? index = some slot) (holds : slot.point = some point)
      (now : after.get? index = some { slot with references := slot.references - 1 })
      (elsewhere : SameElsewhere index table after)
      (contents : table.contents = point ::ₘ after.contents) :
      DropsReference table point state deregister (.ok ⟨index, false⟩, after, state)
  | refused {index : Nat} {slot : Slot} {error : PointError} {side : σ}
      (last : table.contents.count point = 1)
      (before : table.get? index = some slot) (holds : slot.point = some point)
      (deregistered : deregister state slot.handle = (.error error, side)) :
      DropsReference table point state deregister (.error error, table, side)
  | freed {index : Nat} {slot : Slot} {after : SlotTable} {side : σ}
      (last : table.contents.count point = 1)
      (before : table.get? index = some slot) (holds : slot.point = some point)
      (deregistered : deregister state slot.handle = (.ok (), side))
      (now : after.get? index = some .free) (elsewhere : SameElsewhere index table after)
      (contents : table.contents = point ::ₘ after.contents) :
      DropsReference table point state deregister (.ok ⟨index, true⟩, after, side)

/-- The table counts the references to a multiset of points that takes at most
`capacity` registers, and changes as the multiset does. -/
structure CountsReferences (capacity : Nat) (table : SlotTable) : Prop where
  /-- A slot is referred to exactly when it is occupied. -/
  referred {index : Nat} {slot : Slot} (there : table.get? index = some slot) :
    slot.references ≠ 0 ↔ slot.isOccupied = true
  /-- A slot's references are all that there are to its point. -/
  multiplicity {index : Nat} {slot : Slot} {point : EncodedPoint}
    (there : table.get? index = some slot) (holds : slot.point = some point) :
    table.contents.count point = slot.references
  /-- No two slots hold the same point. -/
  apart {index other : Nat} {slot twin : Slot} {point : EncodedPoint}
    (there : table.get? index = some slot) (holds : slot.point = some point)
    (also : table.get? other = some twin) (too : twin.point = some point) : index = other
  /-- The occupied slots cost what the distinct points cost. -/
  used : table.used = spent table.contents
  within : table.used ≤ capacity
  inserting {σ : Type} (point : EncodedPoint) (state : σ)
    (register : σ → EncodedPoint → Except PointError (Option SlotHandle) × σ) :
    AddsReference capacity table point state register (table.insertWith point state register)
  removing {σ : Type} (point : EncodedPoint) (state : σ)
    (deregister : σ → Option SlotHandle → Except PointError Unit × σ) :
    DropsReference table point state deregister (table.removeWith point state deregister)
  /-- A new handle changes its slot alone, and neither point nor references there. -/
  handling {index : Nat} {slot : Slot} (there : table.get? index = some slot)
    (handle : Option SlotHandle) :
    (table.setHandle index handle).get? index = some { slot with handle } ∧
      SameElsewhere index table (table.setHandle index handle) ∧
      (table.setHandle index handle).contents = table.contents
  /-- All slots are released, and the handles of the occupied ones are handed out. -/
  releasing :
    table.releaseAll.1 = table.occupied.filterMap (fun entry => entry.2.handle) ∧
      table.releaseAll.2.capacity = capacity ∧
      (∀ slot ∈ table.releaseAll.2.slots, slot = .free) ∧ table.releaseAll.2.contents = 0

section Steps

variable {capacity : Nat} {table : SlotTable} {point : EncodedPoint}

theorem sameElsewhere_modify (table : SlotTable) (index : Nat) (change : Slot → Slot) :
    SameElsewhere index table (table.modify index change) :=
  fun _ different => get?_modify_of_ne table change different

theorem Bounded.setHandle (bounded : table.Bounded capacity) {index : Nat} {slot : Slot}
    (there : table.get? index = some slot) (isOccupied : slot.isOccupied = true)
    (handle : Option SlotHandle) : (table.setHandle index handle).Bounded capacity where
  counted := forall_mem_modify bounded.counted fun other found => by
    rw [there] at found
    cases found
    obtain ⟨point, holds⟩ := Option.isSome_iff_exists.mp isOccupied
    have positive := bounded.counted.references_pos (List.mem_of_getElem? there) holds
    exact .inr ⟨isOccupied, positive⟩
  tidy := bounded.tidy.modify fun other held found holds =>
    ⟨trivial, fun position twin different also too =>
      different (bounded.tidy.apart also too found holds)⟩
  sized := (capacity_modify _ _ _).trans bounded.sized
  fits := by
    have counted := used_modify there fun slot => { slot with handle }
    have same : Slot.cost { slot with handle } = slot.cost := rfl
    have fewer := bounded.fits
    unfold SlotTable.setHandle
    omega

theorem bounded_releaseAll (sized : table.capacity = capacity) :
    table.releaseAll.2.Bounded capacity := by
  have same : table.releaseAll.2 = .empty table.bank capacity := by
    subst sized
    simp [releaseAll, SlotTable.empty, SlotTable.capacity, List.map_const']
  rw [same]
  exact bounded_empty table.bank capacity

theorem Reached.bounded {bank : RegisterBank} (reached : Reached bank capacity table) :
    table.Bounded capacity := by
  induction reached with
  | empty => exact bounded_empty bank capacity
  | @insertWith σ table _ point state register ih => exact (inserts table point state register).bounded ih
  | @removeWith σ table _ point state deregister ih =>
      exact (removes table point state deregister).bounded ih
  | setHandle _ there isOccupied handle ih => exact ih.setHandle there isOccupied handle
  | releaseAll _ ih => exact bounded_releaseAll ih.sized

end Steps

section Bounded

variable {σ : Type} {capacity : Nat} {table after : SlotTable} {point : EncodedPoint}

theorem Bounded.used_eq_spent (bounded : table.Bounded capacity) :
    table.used = spent table.contents := by
  have distinct : (table.points : Multiset EncodedPoint) = table.contents.dedup := by
    refine (Multiset.Nodup.ext ?_ (Multiset.nodup_dedup _)).mpr fun point => ?_
    · exact Multiset.coe_nodup.mpr bounded.tidy.nodup_points
    · rw [Multiset.mem_coe, Multiset.mem_dedup]
      exact bounded.counted.mem_points_iff
  rw [used_eq, spent, ← distinct, Multiset.map_coe, Multiset.sum_coe]

theorem Bounded.find?_eq_none_iff (bounded : table.Bounded capacity) :
    table.find? point = none ↔ point ∉ table.contents := by
  rw [← bounded.counted.find?_isSome_iff, Option.not_isSome_iff_eq_none]

theorem Bounded.mem_of_find? (bounded : table.Bounded capacity) {index : Nat}
    (found : table.find? point = some index) : point ∈ table.contents :=
  bounded.counted.find?_isSome_iff.mp (by rw [found]; rfl)

/-- What is left fits a point when the distinct points together leave room for it. -/
theorem Bounded.fits_iff (bounded : table.Bounded capacity) :
    point.cost ≤ table.available ↔ spent table.contents + point.cost ≤ capacity := by
  have within := bounded.fits
  unfold available
  rw [bounded.sized, ← bounded.used_eq_spent]
  omega

theorem Bounded.addsReference (bounded : table.Bounded capacity) (point : EncodedPoint) (state : σ)
    (register : σ → EncodedPoint → Except PointError (Option SlotHandle) × σ) :
    AddsReference capacity table point state register (table.insertWith point state register) := by
  have inserted := inserts table point state register
  generalize table.insertWith point state register = outcome at inserted
  cases inserted with
  | @shared index slot found there holds =>
      have contents := Inserts.contents
        (Inserts.shared found there holds : Inserts table point state register _)
      exact .present (bounded.mem_of_find? found) there holds
        (by rw [get?_modify_self, there]; rfl) (sameElsewhere_modify _ _ _) contents
  | full absent crowded =>
      have crowded : table.available < point.cost := by
        rcases crowded with full | few
        · refine Nat.lt_of_not_le fun fits => ?_
          have free := findFree?_isSome_of_fits fits
          simp [full] at free
        · exact few
      have left : table.available = capacity - spent table.contents := by
        rw [available, bounded.sized, bounded.used_eq_spent]
      rw [left]
      refine .crowded (bounded.find?_eq_none_iff.mp absent) ?_
      rw [← Nat.not_le, ← bounded.fits_iff]
      omega
  | refused absent registered fits =>
      exact .refused (bounded.find?_eq_none_iff.mp absent) (bounded.fits_iff.mp fits) registered
  | @taken index slot handle side absent free there isFree registered fits =>
      have contents := (Inserts.taken absent free there isFree registered fits).contents
      have before := bounded.counted.eq_free (List.mem_of_getElem? there) isFree
      exact .taken (bounded.find?_eq_none_iff.mp absent) (bounded.fits_iff.mp fits) registered
        (before ▸ there) (by rw [get?_modify_self, there]; rfl) (sameElsewhere_modify _ _ _) contents

theorem Bounded.dropsReference (bounded : table.Bounded capacity) (point : EncodedPoint) (state : σ)
    (deregister : σ → Option SlotHandle → Except PointError Unit × σ) :
    DropsReference table point state deregister (table.removeWith point state deregister) := by
  have removed := removes table point state deregister
  generalize table.removeWith point state deregister = outcome at removed
  cases removed with
  | absent absent => exact .absent (bounded.find?_eq_none_iff.mp absent)
  | @shared index slot found there holds more =>
      have contents := bounded.counted.contents_removed
        (Removes.shared found there holds more : Removes table point state deregister _)
      have counted := bounded.count_contents there holds
      exact .shared (counted.symm ▸ more) there holds
        (by rw [get?_modify_self, there]; rfl) (sameElsewhere_modify _ _ _) contents
  | @refused index slot error side found there deregistered holds last =>
      have counted := bounded.count_contents there holds
      have positive := bounded.counted.references_pos (List.mem_of_getElem? there) holds
      exact .refused (by omega) there holds deregistered
  | @freed index slot side found there holds last deregistered =>
      have contents := bounded.counted.contents_removed
        (Removes.freed found there holds last deregistered)
      have counted := bounded.count_contents there holds
      have positive := bounded.counted.references_pos (List.mem_of_getElem? there) holds
      exact .freed (by omega) there holds deregistered
        (by rw [get?_modify_self, there]; rfl) (sameElsewhere_modify _ _ _) contents

/-- Only occupied slots keep handles. -/
theorem Bounded.handles (bounded : table.Bounded capacity) :
    table.slots.filterMap Slot.handle = table.occupied.filterMap fun entry => entry.2.handle := by
  have numbered : table.slots.zipIdx.map Prod.fst = table.slots := List.zipIdx_map_fst 0 table.slots
  have counted := bounded.counted
  unfold occupied
  rw [List.filterMap_filter, List.filterMap_map]
  nth_rewrite 1 [← numbered]
  rw [List.filterMap_map]
  refine List.filterMap_congr fun entry member => ?_
  have listed : entry.1 ∈ table.slots := by
    rw [← numbered]
    exact List.mem_map_of_mem member
  rcases counted entry.1 listed with isFree | ⟨isOccupied, _⟩
  · simp [isFree, Slot.free, Slot.isOccupied]
  · simp [isOccupied]

end Bounded

/-- However insertions, removals, new handles and releases follow each other, and
whichever of the kernel's calls fail, a table counts the references to a multiset
of points whose distinct members fit it. -/
theorem reached_tables_count_references {bank : RegisterBank} {capacity : Nat} {table : SlotTable}
    (reached : Reached bank capacity table) : table.CountsReferences capacity where
  referred {index slot} there := by
    rcases reached.bounded.counted slot (List.mem_of_getElem? there) with rfl | ⟨isOccupied, positive⟩
    · simp [Slot.free, Slot.isOccupied]
    · simp [isOccupied, Nat.ne_of_gt positive]
  multiplicity there holds := reached.bounded.count_contents there holds
  apart there holds also too := reached.bounded.tidy.apart there holds also too
  used := reached.bounded.used_eq_spent
  within := reached.bounded.fits
  inserting point state register := reached.bounded.addsReference point state register
  removing point state deregister := reached.bounded.dropsReference point state deregister
  handling {index slot} there handle :=
    ⟨by rw [get?_setHandle_self, there]; rfl, sameElsewhere_modify _ _ _,
      contents_setHandle there handle⟩
  releasing := by
    have released : table.releaseAll.2.Bounded capacity := bounded_releaseAll reached.bounded.sized
    have free : ∀ slot ∈ table.releaseAll.2.slots, slot = .free := by
      intro slot member
      obtain ⟨_, _, same⟩ := List.mem_map.mp member
      exact same.symm
    refine ⟨reached.bounded.handles, released.sized, free, ?_⟩
    refine Multiset.eq_zero_of_forall_notMem fun point member => ?_
    obtain ⟨slot, listed, holds, _⟩ := mem_contents_iff.mp member
    rw [free slot listed] at holds
    cases holds

/-- A range takes two of three registers and is asked for twice. A single window
is refused by the kernel's side, and then there is room for it but for no second
range. -/
theorem reached_tables_count_references_range :
    let range : EncodedPoint :=
      ⟨.write, ⟨0x1000⟩, .range ⟨0x1800⟩, none, ⟨⟨0x1000⟩, ⟨0x1800⟩⟩, 2⟩
    let window : EncodedPoint :=
      ⟨.read, ⟨0x2000⟩, .exact, none, ⟨⟨0x2000⟩, ⟨0x2008⟩⟩, 1⟩
    let grant : List EncodedPoint → EncodedPoint →
        Except PointError (Option SlotHandle) × List EncodedPoint :=
      fun calls point => (.ok (some ⟨7⟩), calls ++ [point])
    let refuse : List EncodedPoint → EncodedPoint →
        Except PointError (Option SlotHandle) × List EncodedPoint :=
      fun calls point => (.error (.kernel .register ⟨1⟩ (.os 5)), calls ++ [point])
    let first := (empty .watchpoints 3).insertWith range [] grant
    let second := first.2.1.insertWith range first.2.2 refuse
    let third := second.2.1.insertWith window second.2.2 refuse
    third.1 = .error (.kernel .register ⟨1⟩ (.os 5)) ∧ third.2.2 = [range, window] ∧
    third.2.1.slots = [⟨some range, 2, some ⟨7⟩⟩, .free, .free] ∧
    (third.2.1.insertWith { range with kind := .read } [] grant).1 =
      .error (.capacityExceeded .read 2 1) ∧
    third.2.1.CountsReferences 3 := by
  intro range window grant refuse first second third
  have reached : Reached .watchpoints 3 third.2.1 :=
    ((Reached.empty.insertWith range [] grant).insertWith range first.2.2 refuse).insertWith window
      second.2.2 refuse
  exact ⟨by decide, by decide, by decide, by decide, reached_tables_count_references reached⟩

end DebugRegisters.SlotTable
