import Mathlib.Algebra.BigOperators.Group.Multiset.Basic
import DebugRegisters.SlotTable.Lemmas

/-!
# What a slot table holds

A table holds each of its points as often as the references of the point's slots
say. Seen as a multiset, taking a reference adds the point once, giving one up
takes it away once, and changing all points changes every copy, whether or not
slots are merged. Nothing here asks that equal points share a slot.
-/

set_option autoImplicit false

namespace DebugRegisters

def Slot.contents (slot : Slot) : Multiset EncodedPoint :=
  match slot.point with
  | none => 0
  | some point => Multiset.replicate slot.references point

/-- A slot is free, or it holds a point of the bank and somebody refers to it. -/
def Slot.IsKept (bank : RegisterBank) (slot : Slot) : Prop :=
  slot = .free ∨ ∃ point, slot.point = some point ∧ point.kind.bank = bank ∧ 0 < slot.references

namespace SlotTable

/-- All points of the table, each as often as it is referred to. -/
def contents (table : SlotTable) : Multiset EncodedPoint :=
  (table.slots.map Slot.contents).sum

def IsKept (bank : RegisterBank) (table : SlotTable) : Prop :=
  ∀ slot ∈ table.slots, slot.IsKept bank

def IsCounted (table : SlotTable) : Prop :=
  ∀ slot ∈ table.slots, slot = .free ∨ slot.isOccupied = true ∧ 0 < slot.references

theorem IsKept.isCounted {bank : RegisterBank} {table : SlotTable} (kept : table.IsKept bank) :
    table.IsCounted := by
  intro slot member
  rcases kept slot member with isFree | ⟨point, holds, _, counted⟩
  · exact .inl isFree
  · exact .inr ⟨by simp [Slot.isOccupied, holds], counted⟩

theorem IsCounted.references_pos {table : SlotTable} (counted : table.IsCounted) {slot : Slot}
    (member : slot ∈ table.slots) {point : EncodedPoint} (holds : slot.point = some point) :
    0 < slot.references := by
  rcases counted slot member with rfl | ⟨_, positive⟩
  · cases holds
  · exact positive

theorem IsCounted.eq_free {table : SlotTable} (counted : table.IsCounted) {slot : Slot}
    (member : slot ∈ table.slots) (isFree : slot.point = none) : slot = .free := by
  rcases counted slot member with same | ⟨isOccupied, _⟩
  · exact same
  · simp [Slot.isOccupied, isFree] at isOccupied

section Outcomes

variable {σ : Type}

inductive Inserts (table : SlotTable) (point : EncodedPoint) (state : σ)
    (register : σ → EncodedPoint → Except PointError (Option SlotHandle) × σ) :
    Except PointError Insertion × SlotTable × σ → Prop where
  | shared {index : Nat} {slot : Slot} (found : table.find? point = some index)
      (there : table.get? index = some slot) (holds : slot.point = some point) :
      Inserts table point state register
        (.ok ⟨index, false⟩,
          table.modify index fun slot => { slot with references := slot.references + 1 }, state)
  | full (absent : table.find? point = none)
      (crowded : table.findFree? = none ∨ table.available < point.cost) :
      Inserts table point state register
        (.error (.capacityExceeded point.kind point.cost table.available), table, state)
  | refused {error : PointError} {after : σ} (absent : table.find? point = none)
      (registered : register state point = (.error error, after))
      (fits : point.cost ≤ table.available) (isFree : table.findFree?.isSome = true) :
      Inserts table point state register (.error error, table, after)
  | taken {index : Nat} {slot : Slot} {handle : Option SlotHandle} {after : σ}
      (absent : table.find? point = none) (free : table.findFree? = some index)
      (there : table.get? index = some slot) (isFree : slot.point = none)
      (registered : register state point = (.ok handle, after))
      (fits : point.cost ≤ table.available) :
      Inserts table point state register
        (.ok ⟨index, true⟩, table.modify index fun _ => ⟨some point, 1, handle⟩, after)

theorem inserts (table : SlotTable) (point : EncodedPoint) (state : σ)
    (register : σ → EncodedPoint → Except PointError (Option SlotHandle) × σ) :
    Inserts table point state register (table.insertWith point state register) := by
  unfold insertWith
  cases found : table.find? point with
  | some index =>
      obtain ⟨slot, there, holds⟩ := get?_of_find? found
      exact .shared found there holds
  | none =>
      cases room : table.findFree?.filter fun _ => point.cost ≤ table.available with
      | none =>
          refine .full found ?_
          cases free : table.findFree? with
          | none => exact .inl rfl
          | some index =>
              refine .inr (Nat.lt_of_not_le fun fits => ?_)
              simp [free, fits] at room
      | some index =>
          obtain ⟨free, fits⟩ : table.findFree? = some index ∧ point.cost ≤ table.available := by
            simpa using Option.filter_eq_some_iff.mp room
          obtain ⟨slot, there, isFree⟩ := get?_of_findFree? free
          dsimp only
          cases registered : register state point with
          | mk answer after =>
              cases answer with
              | error error => exact .refused found registered fits (by rw [free]; rfl)
              | ok handle => exact .taken found free there isFree registered fits

inductive Removes (table : SlotTable) (point : EncodedPoint) (state : σ)
    (deregister : σ → Option SlotHandle → Except PointError Unit × σ) :
    Except PointError Removal × SlotTable × σ → Prop where
  | absent (absent : table.find? point = none) :
      Removes table point state deregister
        (.error (.pointNotFound point.kind point.watched.start), table, state)
  | shared {index : Nat} {slot : Slot} (found : table.find? point = some index)
      (there : table.get? index = some slot) (holds : slot.point = some point)
      (more : 1 < slot.references) :
      Removes table point state deregister
        (.ok ⟨index, false⟩,
          table.modify index fun slot => { slot with references := slot.references - 1 }, state)
  | refused {index : Nat} {slot : Slot} {error : PointError} {after : σ}
      (found : table.find? point = some index) (there : table.get? index = some slot)
      (deregistered : deregister state slot.handle = (.error error, after))
      (holds : slot.point = some point) (last : slot.references ≤ 1) :
      Removes table point state deregister (.error error, table, after)
  | freed {index : Nat} {slot : Slot} {after : σ} (found : table.find? point = some index)
      (there : table.get? index = some slot) (holds : slot.point = some point)
      (last : slot.references ≤ 1)
      (deregistered : deregister state slot.handle = (.ok (), after)) :
      Removes table point state deregister
        (.ok ⟨index, true⟩, table.modify index fun _ => .free, after)

theorem removes (table : SlotTable) (point : EncodedPoint) (state : σ)
    (deregister : σ → Option SlotHandle → Except PointError Unit × σ) :
    Removes table point state deregister (table.removeWith point state deregister) := by
  unfold removeWith
  cases found : table.find? point with
  | none => exact .absent found
  | some index =>
      obtain ⟨slot, there, holds⟩ := get?_of_find? found
      simp only [there, Option.getD_some]
      by_cases more : 1 < slot.references
      · rw [if_pos more]
        exact .shared found there holds more
      · rw [if_neg more]
        cases deregistered : deregister state slot.handle with
        | mk answer after =>
            cases answer with
            | error error => exact .refused found there deregistered holds (by omega)
            | ok => exact .freed found there holds (by omega) deregistered

end Outcomes

section Contents

@[simp] theorem contents_free : Slot.free.contents = 0 :=
  rfl

theorem contents_of_holds {slot : Slot} {point : EncodedPoint} (holds : slot.point = some point) :
    slot.contents = Multiset.replicate slot.references point := by
  simp [Slot.contents, holds]

theorem contents_with_references {slot : Slot} {point : EncodedPoint}
    (holds : slot.point = some point) (references : Nat) :
    Slot.contents { slot with references } = Multiset.replicate references point := by
  simp [Slot.contents, holds]

@[simp] theorem contents_mk (point : EncodedPoint) (references : Nat) (handle : Option SlotHandle) :
    Slot.contents ⟨some point, references, handle⟩ = Multiset.replicate references point :=
  rfl

theorem contents_of_unoccupied {slot : Slot} (isFree : slot.point = none) : slot.contents = 0 := by
  simp [Slot.contents, isFree]

theorem sum_map_modify {α M : Type} [AddCommMonoid M] (measure : α → M) (change : α → α)
    {members : List α} {index : Nat} {member : α} (there : members[index]? = some member) :
    ((members.modify index change).map measure).sum + measure member =
      (members.map measure).sum + measure (change member) := by
  induction members generalizing index with
  | nil => simp at there
  | cons first rest ih =>
      cases index with
      | zero =>
          cases there
          simp only [List.modify_zero_cons, List.map_cons, List.sum_cons]
          ac_rfl
      | succ index =>
          have later := ih (by simpa using there)
          simp only [List.modify_succ_cons, List.map_cons, List.sum_cons, add_assoc, later]

theorem contents_modify {table : SlotTable} {index : Nat} {slot : Slot}
    (there : table.get? index = some slot) (change : Slot → Slot) :
    (table.modify index change).contents + slot.contents =
      table.contents + (change slot).contents :=
  sum_map_modify _ _ there

theorem contents_setHandle {table : SlotTable} {index : Nat} {slot : Slot}
    (there : table.get? index = some slot) (handle : Option SlotHandle) :
    (table.setHandle index handle).contents = table.contents := by
  have counted := contents_modify there fun slot => { slot with handle }
  exact add_right_cancel counted

@[simp] theorem contents_empty (bank : RegisterBank) (capacity : Nat) :
    (empty bank capacity).contents = 0 := by
  simp [empty, contents]

theorem mem_contents_iff {table : SlotTable} {point : EncodedPoint} :
    point ∈ table.contents ↔
      ∃ slot ∈ table.slots, slot.point = some point ∧ 0 < slot.references := by
  unfold contents
  induction table.slots with
  | nil => simp
  | cons slot rest ih =>
      have first : point ∈ slot.contents ↔ slot.point = some point ∧ 0 < slot.references := by
        cases holds : slot.point with
        | none => simp [contents_of_unoccupied holds]
        | some held =>
            rw [contents_of_holds holds, Multiset.mem_replicate]
            constructor
            · rintro ⟨counted, rfl⟩
              exact ⟨rfl, Nat.pos_of_ne_zero counted⟩
            · rintro ⟨same, counted⟩
              exact ⟨Nat.ne_of_gt counted, (Option.some.inj same).symm⟩
      simp [first, ih]

theorem bank_of_mem_contents {bank : RegisterBank} {table : SlotTable} (kept : table.IsKept bank)
    {point : EncodedPoint} (member : point ∈ table.contents) : point.kind.bank = bank := by
  obtain ⟨slot, there, holds, _⟩ := mem_contents_iff.mp member
  rcases kept slot there with rfl | ⟨held, same, sorted, _⟩
  · cases holds
  · rw [holds] at same
    cases same
    exact sorted

theorem IsCounted.find?_isSome_iff {table : SlotTable} (counted : table.IsCounted)
    {point : EncodedPoint} : (table.find? point).isSome = true ↔ point ∈ table.contents := by
  rw [mem_contents_iff]
  constructor
  · intro found
    obtain ⟨index, found⟩ := Option.isSome_iff_exists.mp found
    obtain ⟨slot, there, holds⟩ := get?_of_find? found
    have member : slot ∈ table.slots := List.mem_of_getElem? there
    exact ⟨slot, member, holds, counted.references_pos member holds⟩
  · rintro ⟨slot, member, holds, _⟩
    by_contra missing
    have absent : table.find? point = none := by simpa using missing
    obtain ⟨index, there⟩ := List.mem_iff_getElem?.mp member
    exact find?_eq_none_iff.mp absent index slot there holds

theorem find?_isSome_iff {bank : RegisterBank} {table : SlotTable} (kept : table.IsKept bank)
    {point : EncodedPoint} : (table.find? point).isSome = true ↔ point ∈ table.contents :=
  kept.isCounted.find?_isSome_iff

theorem eq_free_of_contents_eq_zero {bank : RegisterBank} {table : SlotTable}
    (kept : table.IsKept bank) (nothing : table.contents = 0) {slot : Slot}
    (member : slot ∈ table.slots) : slot = .free := by
  rcases kept slot member with isFree | ⟨point, holds, _, counted⟩
  · exact isFree
  · have held : point ∈ table.contents := mem_contents_iff.mpr ⟨slot, member, holds, counted⟩
    rw [nothing] at held
    exact absurd held (Multiset.notMem_zero point)

end Contents

section Kept

variable {bank : RegisterBank} {table : SlotTable}

theorem isKept_empty (bank : RegisterBank) (capacity : Nat) : (empty bank capacity).IsKept bank :=
  fun _ member => .inl (List.eq_of_mem_replicate member)

theorem IsKept.eq_free (kept : table.IsKept bank) {index : Nat} {slot : Slot}
    (there : table.get? index = some slot) (isFree : slot.point = none) : slot = .free := by
  rcases kept slot (List.mem_of_getElem? there) with same | ⟨point, holds, _, _⟩
  · exact same
  · rw [isFree] at holds
    cases holds

theorem IsKept.of_holds (kept : table.IsKept bank) {index : Nat} {slot : Slot}
    {point : EncodedPoint} (there : table.get? index = some slot) (holds : slot.point = some point) :
    point.kind.bank = bank ∧ 0 < slot.references := by
  rcases kept slot (List.mem_of_getElem? there) with rfl | ⟨held, same, sorted, counted⟩
  · cases holds
  · rw [holds] at same
    cases same
    exact ⟨sorted, counted⟩

theorem forall_mem_modify_slots {holds : Slot → Prop} {slots : List Slot}
    (kept : ∀ slot ∈ slots, holds slot) {index : Nat} {change : Slot → Slot}
    (changed : ∀ slot, slots[index]? = some slot → holds (change slot)) :
    ∀ slot ∈ slots.modify index change, holds slot := by
  intro slot member
  obtain ⟨position, there⟩ := List.mem_iff_getElem?.mp member
  rw [List.getElem?_modify] at there
  obtain ⟨before, found, same⟩ := Option.map_eq_some_iff.mp there
  by_cases here : index = position
  · subst here
    simp only [↓reduceIte] at same
    exact same ▸ changed before found
  · simp only [here, ↓reduceIte] at same
    exact same ▸ kept before (List.mem_of_getElem? found)

theorem forall_mem_modify {holds : Slot → Prop} (kept : ∀ slot ∈ table.slots, holds slot)
    {index : Nat} {change : Slot → Slot}
    (changed : ∀ slot, table.get? index = some slot → holds (change slot)) :
    ∀ slot ∈ (table.modify index change).slots, holds slot :=
  forall_mem_modify_slots kept changed

theorem IsKept.modify (kept : table.IsKept bank) {index : Nat} {change : Slot → Slot}
    (changed : ∀ slot, table.get? index = some slot → (change slot).IsKept bank) :
    (table.modify index change).IsKept bank :=
  forall_mem_modify kept changed

theorem isKept_of_references {slot : Slot} {point : EncodedPoint} (kept : slot.IsKept bank)
    (holds : slot.point = some point) {references : Nat} (counted : 0 < references) :
    Slot.IsKept bank { slot with references } := by
  rcases kept with rfl | ⟨held, same, sorted, _⟩
  · cases holds
  · exact .inr ⟨held, same, sorted, counted⟩

end Kept

section Operations

variable {σ : Type} {bank : RegisterBank} {table after : SlotTable} {point : EncodedPoint}
  {state side : σ} {register : σ → EncodedPoint → Except PointError (Option SlotHandle) × σ}
  {deregister : σ → Option SlotHandle → Except PointError Unit × σ}

theorem Inserts.keeps_side {holds : σ → Prop} {result : Except PointError Insertion}
    (inserted : Inserts table point state register (result, after, side))
    (kept : ∀ state point, holds state → holds (register state point).2) (before : holds state) :
    holds side := by
  cases inserted with
  | shared | full => exact before
  | refused absent registered =>
      have later := kept _ point before
      rwa [registered] at later
  | taken absent free there isFree registered =>
      have later := kept _ point before
      rwa [registered] at later

theorem Inserts.contents {insertion : Insertion}
    (inserted : Inserts table point state register (.ok insertion, after, side)) :
    after.contents = point ::ₘ table.contents := by
  cases inserted with
  | @shared index slot found there holds =>
      have counted := contents_modify there fun slot =>
        { slot with references := slot.references + 1 }
      rw [contents_of_holds holds, contents_with_references holds,
        Multiset.replicate_succ, Multiset.add_cons, ← Multiset.cons_add] at counted
      exact add_right_cancel counted
  | @taken index slot handle _ absent free there isFree registered =>
      have counted := contents_modify there fun _ => ⟨some point, 1, handle⟩
      rw [contents_of_unoccupied isFree, contents_mk, add_zero,
        Multiset.replicate_one, add_comm, Multiset.singleton_add] at counted
      exact counted

theorem Inserts.isKept {result : Except PointError Insertion} (kept : table.IsKept bank)
    (sorted : point.kind.bank = bank)
    (inserted : Inserts table point state register (result, after, side)) :
    after.IsKept bank := by
  cases inserted with
  | shared found there holds =>
      refine kept.modify fun slot found => ?_
      rw [there] at found
      cases found
      exact isKept_of_references (kept _ (List.mem_of_getElem? there)) holds (Nat.succ_pos _)
  | full | refused => exact kept
  | taken => exact kept.modify fun _ _ => .inr ⟨point, rfl, sorted, Nat.one_pos⟩

theorem Removes.keeps_side {holds : σ → Prop} {result : Except PointError Removal}
    (removed : Removes table point state deregister (result, after, side))
    (kept : ∀ state handle, holds state → holds (deregister state handle).2) (before : holds state) :
    holds side := by
  cases removed with
  | absent | shared => exact before
  | @refused _ slot _ _ found there deregistered =>
      have later := kept _ slot.handle before
      rwa [deregistered] at later
  | @freed _ slot _ found there holds last deregistered =>
      have later := kept _ slot.handle before
      rwa [deregistered] at later

theorem IsCounted.contents_removed {removal : Removal} (counted : table.IsCounted)
    (removed : Removes table point state deregister (.ok removal, after, side)) :
    table.contents = point ::ₘ after.contents := by
  cases removed with
  | @shared index slot found there holds more =>
      have counted := contents_modify there fun slot =>
        { slot with references := slot.references - 1 }
      have split : slot.references = slot.references - 1 + 1 := by omega
      rw [contents_with_references holds (slot.references - 1), contents_of_holds holds] at counted
      nth_rewrite 1 [split] at counted
      rw [Multiset.replicate_succ, Multiset.add_cons, ← Multiset.cons_add] at counted
      exact (add_right_cancel counted).symm
  | @freed index slot _ found there holds last deregistered =>
      have positive := counted.references_pos (List.mem_of_getElem? there) holds
      have counted := contents_modify there fun _ => .free
      have once : slot.references = 1 := by omega
      rw [contents_of_holds holds, once, Multiset.replicate_one, contents_free, add_zero,
        add_comm, Multiset.singleton_add] at counted
      exact counted.symm

theorem Removes.contents {removal : Removal} (kept : table.IsKept bank)
    (removed : Removes table point state deregister (.ok removal, after, side)) :
    table.contents = point ::ₘ after.contents :=
  kept.isCounted.contents_removed removed

theorem Removes.isKept {result : Except PointError Removal} (kept : table.IsKept bank)
    (removed : Removes table point state deregister (result, after, side)) :
    after.IsKept bank := by
  cases removed with
  | absent | refused => exact kept
  | shared found there holds more =>
      refine kept.modify fun slot found => ?_
      rw [there] at found
      cases found
      exact isKept_of_references (kept _ (List.mem_of_getElem? there)) holds (by omega)
  | freed => exact kept.modify fun _ _ => .inl rfl

end Operations

section MapPoints

variable {change : EncodedPoint → EncodedPoint}

theorem contents_map (slot : Slot) {point : EncodedPoint} (holds : slot.point = some point) :
    Slot.contents { slot with point := some (change point) } = slot.contents.map change := by
  rw [contents_of_holds holds, contents_mk, Multiset.map_replicate]

theorem Settles.contents {done next : List Slot} {slot : Slot}
    (settled : Settles change done slot next) :
    (next.map Slot.contents).sum =
      (done.map Slot.contents).sum + slot.contents.map change := by
  cases settled with
  | kept same =>
      cases holds : slot.point with
      | none => simp [contents_of_unoccupied holds]
      | some point =>
          have fixed : change point = point := by simpa [holds] using same
          simp [contents_of_holds holds, fixed]
  | @merged index earlier point holds changed there same =>
      have counted := sum_map_modify Slot.contents
        (fun earlier : Slot =>
          { earlier with references := earlier.references + slot.references }) there
      rw [contents_of_holds same, contents_with_references same, Multiset.replicate_add,
        ← add_assoc, add_right_comm] at counted
      rw [← contents_map slot holds, contents_mk]
      simpa using add_right_cancel counted
  | moved holds => simp [← contents_map slot holds]

/-- Where points become equal, their references are added up. -/
@[simp] theorem contents_mapPoints (table : SlotTable) :
    (table.mapPoints change).1.contents = table.contents.map change := by
  have mapped := mapPoints_keeps change table (fun done rest =>
    (done.map Slot.contents).sum + (rest.map Slot.contents).sum.map change =
      table.contents.map change) ?_ (by simp [contents])
  · simpa [contents] using mapped
  · intro done next rest slot settled before
    rw [settled.contents, add_assoc, ← Multiset.map_add]
    simpa using before

/-- What holds of every slot stays so, where it holds of a free slot and stays so
when a slot gains references and when its point is changed. -/
theorem forall_mem_mapPoints {holds : Slot → Prop} {table : SlotTable} (free : holds .free)
    (grown : ∀ (slot : Slot) (point : EncodedPoint) (count : Nat), slot.point = some point →
      holds slot → holds { slot with references := slot.references + count })
    (moved : ∀ (slot : Slot) (point : EncodedPoint), slot.point = some point →
      holds slot → holds { slot with point := some (change point) })
    (before : ∀ slot ∈ table.slots, holds slot) :
    ∀ slot ∈ (table.mapPoints change).1.slots, holds slot := by
  have ends := mapPoints_keeps change table
    (fun done rest => (∀ slot ∈ done, holds slot) ∧ ∀ slot ∈ rest, holds slot) ?_
    ⟨by simp, before⟩
  · exact ends.1
  intro done next rest slot settled ⟨earlier, later⟩
  obtain ⟨own, later⟩ := List.forall_mem_cons.mp later
  refine ⟨?_, later⟩
  cases settled with
  | kept => exact List.forall_mem_append.mpr ⟨earlier, by simpa using own⟩
  | @merged index twin point _ _ there same =>
      refine List.forall_mem_append.mpr ⟨forall_mem_modify_slots earlier fun slot found => ?_,
        by simpa using free⟩
      rw [there] at found
      cases found
      exact grown twin _ _ same (earlier twin (List.mem_of_getElem? there))
  | moved known =>
      exact List.forall_mem_append.mpr ⟨earlier, by simpa using moved slot _ known own⟩

theorem IsKept.mapPoints {bank : RegisterBank} {table : SlotTable} (kept : table.IsKept bank)
    (keeps : ∀ point, (change point).kind = point.kind) :
    (table.mapPoints change).1.IsKept bank := by
  refine forall_mem_mapPoints (.inl rfl) ?grown ?moved kept
  case grown =>
    intro slot point count holds kept
    have positive : 0 < slot.references := by
      rcases kept with rfl | ⟨_, _, _, positive⟩
      · cases holds
      · exact positive
    exact isKept_of_references kept holds (Nat.add_pos_left positive count)
  case moved =>
    intro slot point holds kept
    rcases kept with rfl | ⟨held, same, sorted, positive⟩
    · cases holds
    · rw [same] at holds
      cases holds
      refine .inr ⟨change point, rfl, ?_, positive⟩
      rw [PointKind.bank, keeps]
      exact sorted

end MapPoints

end SlotTable

end DebugRegisters
