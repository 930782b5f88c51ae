import DebugRegisters.SlotTable.Lemmas

/-!
# Changing all points of a table

A change that keeps the points of a class apart, and all that slots are counted
by, can be made before or after points are added and dropped: the decisions are
the same, and so are the tables. Where no point is held twice, changing points
one after the other merges none of them.
-/

set_option autoImplicit false

namespace DebugRegisters

/-- The change keeps the points of a class apart, and what slots are counted by. -/
structure Separates (change : EncodedPoint → EncodedPoint) (among : EncodedPoint → Prop) : Prop where
  injective {first second : EncodedPoint} (one : among first) (two : among second)
    (same : change first = change second) : first = second
  kind (point : EncodedPoint) : (change point).kind = point.kind
  cost (point : EncodedPoint) : (change point).cost = point.cost
  watched (point : EncodedPoint) : (change point).watched = point.watched

theorem Separates.of_span {change : EncodedPoint → EncodedPoint} {among : EncodedPoint → Prop}
    (spans : ∀ point, ∃ span, change point = { point with span })
    (injective : ∀ first second, among first → among second → change first = change second →
      first = second) : Separates change among where
  injective := injective _ _
  kind point := by
    obtain ⟨span, same⟩ := spans point
    rw [same]
  cost point := by
    obtain ⟨span, same⟩ := spans point
    rw [same]
    rfl
  watched point := by
    obtain ⟨span, same⟩ := spans point
    rw [same]

theorem Separates.within {change : EncodedPoint → EncodedPoint} {among : EncodedPoint → Prop}
    (separates : Separates change among) (bank : RegisterBank) :
    Separates change fun point => among point ∧ point.kind.bank = bank :=
  ⟨fun one two => separates.injective one.1 two.1, separates.kind, separates.cost, separates.watched⟩

def Slot.mapPoint (change : EncodedPoint → EncodedPoint) (slot : Slot) : Slot :=
  { slot with point := slot.point.map change }

theorem Slot.mapPoint_of_fixed {change : EncodedPoint → EncodedPoint} {slot : Slot}
    (fixed : ∀ point, slot.point = some point → change point = point) :
    slot.mapPoint change = slot := by
  obtain ⟨held, references, handle⟩ := slot
  cases held with
  | none => rfl
  | some point => simp [Slot.mapPoint, fixed point rfl]

namespace SlotTable

/-- The table with every point changed in its slot. -/
def slotwise (change : EncodedPoint → EncodedPoint) (table : SlotTable) : SlotTable :=
  { table with slots := table.slots.map (Slot.mapPoint change) }

structure Tidy (among : EncodedPoint → Prop) (table : SlotTable) : Prop where
  within {index : Nat} {slot : Slot} {point : EncodedPoint} (there : table.get? index = some slot)
    (holds : slot.point = some point) : among point
  apart {index other : Nat} {slot twin : Slot} {point : EncodedPoint}
    (there : table.get? index = some slot) (holds : slot.point = some point)
    (also : table.get? other = some twin) (too : twin.point = some point) : index = other

def add (table : SlotTable) (point : EncodedPoint) : Except PointError Insertion × SlotTable :=
  let outcome := table.insertWith point () fun state _ => (.ok none, state)
  (outcome.1, outcome.2.1)

def drop (table : SlotTable) (point : EncodedPoint) : Except PointError Removal × SlotTable :=
  let outcome := table.removeWith point () fun state _ => (.ok (), state)
  (outcome.1, outcome.2.1)

section Settled

variable {σ : Type} {table : SlotTable} {point : EncodedPoint} {state : σ}

/-- Where the kernel has no part in it, an insertion adds the point. -/
theorem insertWith_eq_add
    {register : σ → EncodedPoint → Except PointError (Option SlotHandle) × σ}
    (settled : register state point = (.ok none, state)) :
    table.insertWith point state register = ((table.add point).1, (table.add point).2, state) := by
  unfold add insertWith
  cases table.find? point with
  | some index => rfl
  | none =>
      cases table.findFree?.filter fun _ => point.cost ≤ table.available with
      | none => rfl
      | some index => simp only [settled]

theorem removeWith_eq_drop {deregister : σ → Option SlotHandle → Except PointError Unit × σ}
    (settled : ∀ handle, deregister state handle = (.ok (), state)) :
    table.removeWith point state deregister =
      ((table.drop point).1, (table.drop point).2, state) := by
  unfold drop removeWith
  cases table.find? point with
  | none => rfl
  | some index =>
      dsimp only
      split
      · rfl
      · simp only [settled]

end Settled

section Cases

variable {table : SlotTable} {point : EncodedPoint}

theorem add_of_held {index : Nat} (held : table.find? point = some index) :
    table.add point =
      (.ok ⟨index, false⟩,
        table.modify index fun slot => { slot with references := slot.references + 1 }) := by
  unfold add
  rw [insertWith_of_held held]

theorem add_of_full (absent : table.find? point = none)
    (full : (table.findFree?.filter fun _ => point.cost ≤ table.available) = none) :
    table.add point =
      (.error (.capacityExceeded point.kind point.cost table.available), table) := by
  unfold add insertWith
  simp only [absent, full]

theorem add_of_free (absent : table.find? point = none) {index : Nat}
    (free : (table.findFree?.filter fun _ => point.cost ≤ table.available) = some index) :
    table.add point = (.ok ⟨index, true⟩, table.modify index fun _ => ⟨some point, 1, none⟩) := by
  unfold add insertWith
  simp only [absent, free]

theorem drop_of_absent (absent : table.find? point = none) :
    table.drop point = (.error (.pointNotFound point.kind point.watched.start), table) := by
  unfold drop
  rw [removeWith_of_absent absent]

theorem drop_of_shared {index : Nat} (held : table.find? point = some index)
    (more : 1 < ((table.get? index).getD .free).references) :
    table.drop point =
      (.ok ⟨index, false⟩,
        table.modify index fun slot => { slot with references := slot.references - 1 }) := by
  unfold drop removeWith
  simp only [held, more, if_true]

theorem drop_of_last {index : Nat} (held : table.find? point = some index)
    (last : ¬1 < ((table.get? index).getD .free).references) :
    table.drop point = (.ok ⟨index, true⟩, table.modify index fun _ => .free) := by
  unfold drop removeWith
  simp only [held, last, if_false]

end Cases

section Tidiness

variable {among : EncodedPoint → Prop} {table : SlotTable}

theorem tidy_empty (bank : RegisterBank) (capacity : Nat) : (empty bank capacity).Tidy among where
  within there holds := by
    rw [get?_empty there] at holds
    cases holds
  apart there holds _ _ := by
    rw [get?_empty there] at holds
    cases holds

/-- A change of one slot is tidy if the slot gets no point of another slot, and
none of another class. -/
theorem Tidy.modify (tidy : table.Tidy among) {index : Nat} {change : Slot → Slot}
    (fine : ∀ slot point, table.get? index = some slot → (change slot).point = some point →
      among point ∧ ∀ other twin, other ≠ index → table.get? other = some twin →
        twin.point ≠ some point) :
    (table.modify index change).Tidy among := by
  have changed : ∀ {slot : Slot}, (table.modify index change).get? index = some slot →
      ∃ before, table.get? index = some before ∧ slot = change before := by
    intro slot there
    rw [get?_modify_self] at there
    obtain ⟨before, found, rfl⟩ := Option.map_eq_some_iff.mp there
    exact ⟨before, found, rfl⟩
  have kept : ∀ {other : Nat} {slot : Slot}, other ≠ index →
      (table.modify index change).get? other = some slot → table.get? other = some slot := by
    intro other slot different there
    rwa [get?_modify_of_ne _ _ different] at there
  constructor
  · intro position slot point there holds
    by_cases here : position = index
    · subst here
      obtain ⟨before, found, rfl⟩ := changed there
      exact (fine before point found holds).1
    · exact tidy.within (kept here there) holds
  · intro position other slot twin point there holds also too
    by_cases here : position = index
    · subst here
      obtain ⟨before, found, rfl⟩ := changed there
      by_cases same : other = position
      · exact same.symm
      · exact absurd too ((fine before point found holds).2 other twin same (kept same also))
    · by_cases same : other = index
      · subst same
        obtain ⟨before, found, rfl⟩ := changed also
        exact absurd holds ((fine before point found too).2 position slot here (kept here there))
      · exact tidy.apart (kept here there) holds (kept same also) too

theorem Tidy.recount (tidy : table.Tidy among) (index : Nat) (count : Slot → Nat) :
    (table.modify index fun slot => { slot with references := count slot }).Tidy among := by
  refine tidy.modify fun slot point there holds => ?_
  refine ⟨tidy.within there holds, fun other twin different also too => ?_⟩
  exact different (tidy.apart there holds also too).symm

theorem Tidy.add (tidy : table.Tidy among) {point : EncodedPoint} (member : among point) :
    (table.add point).2.Tidy among := by
  cases held : table.find? point with
  | some index =>
      rw [add_of_held held]
      exact tidy.recount index fun slot => slot.references + 1
  | none =>
      cases free : table.findFree?.filter fun _ => point.cost ≤ table.available with
      | none =>
          rw [add_of_full held free]
          exact tidy
      | some index =>
          rw [add_of_free held free]
          refine tidy.modify fun slot other _ holds => ?_
          cases holds
          exact ⟨member, fun position twin _ also => find?_eq_none_iff.mp held position twin also⟩

theorem Tidy.drop (tidy : table.Tidy among) (point : EncodedPoint) :
    (table.drop point).2.Tidy among := by
  cases held : table.find? point with
  | none =>
      rw [drop_of_absent held]
      exact tidy
  | some index =>
      by_cases more : 1 < ((table.get? index).getD .free).references
      · rw [drop_of_shared held more]
        exact tidy.recount index fun slot => slot.references - 1
      · rw [drop_of_last held more]
        refine tidy.modify fun slot other _ holds => ?_
        cases holds

theorem Tidy.slotwise_congr (tidy : table.Tidy among) {first second : EncodedPoint → EncodedPoint}
    (same : ∀ point, among point → first point = second point) :
    table.slotwise first = table.slotwise second := by
  unfold slotwise
  congr 1
  refine List.map_congr_left fun slot member => ?_
  obtain ⟨index, there⟩ := List.mem_iff_getElem?.mp member
  unfold Slot.mapPoint
  cases holds : slot.point with
  | none => rfl
  | some point => rw [Option.map_some, Option.map_some, same point (tidy.within there holds)]

end Tidiness

section Commuting

variable {change : EncodedPoint → EncodedPoint} {among : EncodedPoint → Prop} {table : SlotTable}
  {point : EncodedPoint}

theorem get?_slotwise (change : EncodedPoint → EncodedPoint) (table : SlotTable) (index : Nat) :
    (table.slotwise change).get? index = (table.get? index).map (Slot.mapPoint change) :=
  List.getElem?_map

theorem slotwise_id (table : SlotTable) : table.slotwise (fun point => point) = table := by
  obtain ⟨bank, slots⟩ := table
  have same : slots.map (Slot.mapPoint fun point => point) = slots := by
    refine (List.map_congr_left fun slot _ => ?_).trans (List.map_id slots)
    exact Slot.mapPoint_of_fixed fun _ _ => rfl
  simp only [slotwise, same]

theorem slotwise_empty (bank : RegisterBank) (capacity : Nat) :
    (empty bank capacity).slotwise change = empty bank capacity := by
  simp only [slotwise, empty, List.map_replicate]
  rfl

theorem slotwise_modify {edit image : Slot → Slot}
    (agree : ∀ slot, (edit slot).mapPoint change = image (slot.mapPoint change)) (index : Nat) :
    (table.modify index edit).slotwise change = (table.slotwise change).modify index image := by
  obtain ⟨bank, slots⟩ := table
  simp only [slotwise, modify, mk.injEq, true_and]
  refine List.ext_getElem? fun position => ?_
  rw [List.getElem?_map, List.getElem?_modify, List.getElem?_modify, List.getElem?_map]
  cases slots[position]? with
  | none => rfl
  | some slot =>
      simp only [Option.map_some]
      split
      · exact congrArg some (agree slot)
      · rfl

theorem slotwise_recount (index : Nat) (count : Nat → Nat) :
    (table.modify index fun slot => { slot with references := count slot.references }).slotwise
        change =
      (table.slotwise change).modify index fun slot =>
        { slot with references := count slot.references } := by
  refine slotwise_modify (fun slot => ?_) index
  rfl

variable (separates : Separates change among)

include separates

theorem Tidy.slotwise {wider : EncodedPoint → Prop} (tidy : table.Tidy among)
    (image : ∀ point, among point → wider (change point)) : (table.slotwise change).Tidy wider := by
  have before : ∀ {index : Nat} {slot : Slot} {point : EncodedPoint},
      (table.slotwise change).get? index = some slot → slot.point = some point →
        ∃ old held, table.get? index = some old ∧ old.point = some held ∧ change held = point := by
    intro index slot point there holds
    rw [get?_slotwise] at there
    obtain ⟨old, found, rfl⟩ := Option.map_eq_some_iff.mp there
    obtain ⟨held, here, rfl⟩ := Option.map_eq_some_iff.mp holds
    exact ⟨old, held, found, here, rfl⟩
  constructor
  · intro index slot point there holds
    obtain ⟨old, held, found, here, rfl⟩ := before there holds
    exact image held (tidy.within found here)
  · intro index other slot twin point there holds also too
    obtain ⟨old, held, found, here, rfl⟩ := before there holds
    obtain ⟨copy, second, again, elsewhere, same⟩ := before also too
    have equal := separates.injective (tidy.within again elsewhere) (tidy.within found here) same
    exact tidy.apart found here again (equal ▸ elsewhere)

theorem holds_mapPoint {slot : Slot} (known : ∀ held, slot.point = some held → among held)
    (member : among point) : (slot.mapPoint change).holds (change point) = slot.holds point := by
  unfold Slot.holds Slot.mapPoint
  cases holds : slot.point with
  | none => rfl
  | some held =>
      rw [Option.map_some, Bool.eq_iff_iff, beq_iff_eq, beq_iff_eq, Option.some.injEq,
        Option.some.injEq]
      exact ⟨separates.injective (known held holds) member, congrArg change⟩

theorem find?_slotwise (tidy : table.Tidy among) (member : among point) :
    (table.slotwise change).find? (change point) = table.find? point := by
  unfold find? slotwise
  dsimp only
  rw [List.findIdx?_map]
  have same : ∀ slot ∈ table.slots,
      ((fun slot : Slot => slot.holds (change point)) ∘ Slot.mapPoint change) slot =
        slot.holds point := by
    intro slot there
    obtain ⟨index, found⟩ := List.mem_iff_getElem?.mp there
    exact holds_mapPoint separates (fun held holds => tidy.within found holds) member
  revert same
  generalize table.slots = slots
  intro same
  induction slots with
  | nil => rfl
  | cons slot rest ih =>
      rw [List.findIdx?_cons, List.findIdx?_cons, same slot List.mem_cons_self,
        ih fun later there => same later (List.mem_cons_of_mem _ there)]

omit separates in
theorem findFree?_slotwise (change : EncodedPoint → EncodedPoint) (table : SlotTable) :
    (table.slotwise change).findFree? = table.findFree? := by
  have same : (fun slot : Slot => !slot.isOccupied) ∘ Slot.mapPoint change =
      fun slot => !slot.isOccupied := by
    funext slot
    simp [Slot.mapPoint, Slot.isOccupied]
  unfold findFree? slotwise
  rw [List.findIdx?_map, same]

theorem available_slotwise : (table.slotwise change).available = table.available := by
  have same : Slot.cost ∘ Slot.mapPoint change = Slot.cost := by
    funext slot
    unfold Slot.mapPoint Slot.cost
    dsimp only [Function.comp]
    cases slot.point with
    | none => rfl
    | some point => exact separates.cost point
  unfold available used capacity slotwise
  simp only [List.length_map, List.map_map, same]

theorem neededFor_slotwise (tidy : table.Tidy among) {points : List EncodedPoint}
    (members : ∀ point ∈ points, among point) :
    (table.slotwise change).neededFor (points.map change) = table.neededFor points := by
  have absent : points.filter ((fun point => ((table.slotwise change).find? point).isNone) ∘ change) =
      points.filter fun point => (table.find? point).isNone := by
    refine List.filter_congr fun point member => ?_
    dsimp only [Function.comp]
    rw [find?_slotwise separates tidy (members point member)]
  have cost : EncodedPoint.cost ∘ change = EncodedPoint.cost := funext separates.cost
  unfold neededFor
  rw [List.filter_map, List.map_map, absent, cost]

/-- Whether points fit does not depend on the change, and neither does the error. -/
theorem canAccept_slotwise (tidy : table.Tidy among) {points : List EncodedPoint}
    (members : ∀ point ∈ points, among point) :
    (table.slotwise change).canAccept (points.map change) = table.canAccept points := by
  unfold canAccept
  rw [neededFor_slotwise separates tidy members, available_slotwise separates]
  cases points with
  | nil => rfl
  | cons first rest =>
      rw [List.map_cons]
      dsimp only
      rw [separates.kind]

theorem add_slotwise (tidy : table.Tidy among) (member : among point) :
    (table.slotwise change).add (change point) =
      ((table.add point).1, (table.add point).2.slotwise change) := by
  have found := find?_slotwise separates tidy member
  have free := findFree?_slotwise change table
  have room := @available_slotwise change among table separates
  cases held : table.find? point with
  | some index =>
      rw [held] at found
      have commutes := @slotwise_recount change table index fun references => references + 1
      rw [add_of_held held, add_of_held found, commutes]
  | none =>
      rw [held] at found
      have filtered : ((table.slotwise change).findFree?.filter
            fun _ => (change point).cost ≤ (table.slotwise change).available) =
          table.findFree?.filter fun _ => point.cost ≤ table.available := by
        rw [free, separates.cost, room]
      cases taken : table.findFree?.filter fun _ => point.cost ≤ table.available with
      | none =>
          rw [taken] at filtered
          rw [add_of_full held taken, add_of_full found filtered, separates.kind, separates.cost,
            room]
      | some index =>
          rw [taken] at filtered
          have commutes : (table.modify index fun _ => ⟨some point, 1, none⟩).slotwise change =
              (table.slotwise change).modify index fun _ => ⟨some (change point), 1, none⟩ := by
            refine slotwise_modify (fun slot => ?_) index
            rfl
          rw [add_of_free held taken, add_of_free found filtered, commutes]

theorem drop_slotwise (tidy : table.Tidy among) (member : among point) :
    (table.slotwise change).drop (change point) =
      ((table.drop point).1, (table.drop point).2.slotwise change) := by
  have found := find?_slotwise separates tidy member
  cases held : table.find? point with
  | none =>
      rw [held] at found
      rw [drop_of_absent held, drop_of_absent found, separates.kind, separates.watched]
  | some index =>
      rw [held] at found
      have counted : (((table.slotwise change).get? index).getD .free).references =
          ((table.get? index).getD .free).references := by
        rw [get?_slotwise]
        cases table.get? index <;> rfl
      by_cases more : 1 < ((table.get? index).getD .free).references
      · have commutes := @slotwise_recount change table index fun references => references - 1
        rw [drop_of_shared held more, drop_of_shared found (counted ▸ more), commutes]
      · have commutes : (table.modify index fun _ => Slot.free).slotwise change =
            (table.slotwise change).modify index fun _ => .free := by
          refine slotwise_modify (fun slot => ?_) index
          rfl
        rw [drop_of_last held more, drop_of_last found (counted ▸ more), commutes]

end Commuting

section Merging

variable {change : EncodedPoint → EncodedPoint} {among : EncodedPoint → Prop}

/-- Where no later point comes to equal one that is done, each stays in its slot. -/
theorem mapPointsFrom_apart (separates : Separates change among) {done : Array Slot}
    {slots : List Slot}
    (within : ∀ slot ∈ slots, ∀ point, slot.point = some point → among point)
    (apart : slots.Pairwise fun first later =>
      ∀ point, first.point = some point → later.point ≠ some point)
    (free : ∀ earlier ∈ done, ∀ slot ∈ slots, ∀ point, slot.point = some point →
      earlier.point ≠ some (change point)) :
    (mapPointsFrom change done slots).1.toList =
      done.toList ++ slots.map (Slot.mapPoint change) := by
  induction slots generalizing done with
  | nil => simp [mapPointsFrom]
  | cons slot rest ih =>
      obtain ⟨first, later⟩ := List.pairwise_cons.mp apart
      have laterWithin : ∀ slot ∈ rest, ∀ point, slot.point = some point → among point :=
        fun slot member => within slot (List.mem_cons_of_mem _ member)
      have push : ∀ added : Slot, added = slot.mapPoint change →
          (mapPointsFrom change (done.push added) rest).1.toList =
            done.toList ++ (slot :: rest).map (Slot.mapPoint change) := by
        intro added same
        rw [ih laterWithin later, Array.toList_push, same, List.map_cons, List.append_assoc,
          List.singleton_append]
        intro earlier member other there point holds
        rcases Array.mem_push.mp member with before | last
        · exact free earlier before other (List.mem_cons_of_mem _ there) point holds
        · rw [last, same]
          intro equal
          obtain ⟨held, here, collides⟩ := Option.map_eq_some_iff.mp equal
          have twins := separates.injective (within slot List.mem_cons_self held here)
            (laterWithin other there point holds) collides
          exact first other there held here (twins ▸ holds)
      unfold mapPointsFrom
      split
      · next isFree =>
          refine push slot (Slot.mapPoint_of_fixed fun point holds => ?_).symm
          rw [isFree] at holds
          cases holds
      · next point holds =>
          split
          · next fixed =>
              refine push slot (Slot.mapPoint_of_fixed fun other same => ?_).symm
              rw [holds] at same
              cases same
              exact fixed
          · have absent : done.findIdx? (fun earlier => earlier.holds (change point)) = none := by
              rw [Array.findIdx?_eq_none_iff]
              intro earlier member
              have different := free earlier member slot List.mem_cons_self point holds
              simpa [Slot.holds] using different
            dsimp only
            rw [absent]
            exact push _ (by simp [Slot.mapPoint, holds])

/-- In a tidy table no points are merged. -/
theorem mapPoints_eq_slotwise (separates : Separates change among) {table : SlotTable}
    (tidy : table.Tidy among) : (table.mapPoints change).1 = table.slotwise change := by
  have within : ∀ slot ∈ table.slots, ∀ point, slot.point = some point → among point := by
    intro slot member point holds
    obtain ⟨index, there⟩ := List.mem_iff_getElem?.mp member
    exact tidy.within there holds
  have apart : table.slots.Pairwise fun first later =>
      ∀ point, first.point = some point → later.point ≠ some point := by
    rw [List.pairwise_iff_getElem]
    intro index other inside within below point holds too
    have there : table.get? index = some table.slots[index] := List.getElem?_eq_getElem inside
    have also : table.get? other = some table.slots[other] := List.getElem?_eq_getElem within
    have same := tidy.apart there holds also too
    omega
  have mapped := @mapPointsFrom_apart change among separates #[] table.slots within apart
    fun earlier none => absurd none (by simp)
  unfold mapPoints slotwise
  dsimp only
  rw [mapped]
  rfl

end Merging

end SlotTable

end DebugRegisters
