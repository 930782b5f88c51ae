import Mathlib.Algebra.Order.BigOperators.Group.List
import Mathlib.Algebra.Order.Group.Nat
import DebugRegisters.Kernel.Simulated
import DebugRegisters.Proofs.SlotTable.Replacing
import DebugRegisters.ThreadPoints.Lemmas

/-!
# Slots and registrations

On a kernel with handles the tables of a thread and its live registrations mirror
each other: a registration belongs to the one slot that has its handle, and an
occupied slot has a handle, whose registration is live unless it fired. Each of
these outlasts that a slot is taken with a registration, freed with it, or counts
its references anew.
-/

set_option autoImplicit false

namespace DebugRegisters

section Editing

variable {tables : RegisterBank → SlotTable} {bank other : RegisterBank} {index position : Nat}
  {change : Slot → Slot} {slot : Slot}

def editSlot (tables : RegisterBank → SlotTable) (bank : RegisterBank) (index : Nat)
    (change : Slot → Slot) : RegisterBank → SlotTable :=
  fun other => if other = bank then (tables bank).modify index change else tables other

theorem get?_editSlot_self (there : (tables bank).get? index = some slot) :
    (editSlot tables bank index change bank).get? index = some (change slot) := by
  simp [editSlot, SlotTable.get?_modify_self, there]

theorem get?_editSlot_of_ne (apart : ¬(other = bank ∧ position = index)) :
    (editSlot tables bank index change other).get? position = (tables other).get? position := by
  unfold editSlot
  split
  · next here =>
      subst here
      exact SlotTable.get?_modify_of_ne _ _ fun same => apart ⟨rfl, same⟩
  · rfl

theorem get?_editSlot_cases
    (there : (editSlot tables bank index change other).get? position = some slot) :
    (other = bank ∧ position = index ∧
        ∃ before, (tables bank).get? index = some before ∧ slot = change before) ∨
      (¬(other = bank ∧ position = index) ∧ (tables other).get? position = some slot) := by
  by_cases here : other = bank ∧ position = index
  · obtain ⟨rfl, rfl⟩ := here
    simp only [editSlot, if_true, SlotTable.get?_modify_self, Option.map_eq_some_iff] at there
    obtain ⟨before, found, rfl⟩ := there
    exact .inl ⟨rfl, rfl, before, found, rfl⟩
  · rw [get?_editSlot_of_ne here] at there
    exact .inr ⟨here, there⟩

/-- What is made of a slot can be put in its place when it is free. -/
theorem editSlot_free (there : (tables bank).get? index = some slot) (change : Slot → Slot) :
    editSlot (editSlot tables bank index fun _ => .free) bank index (fun _ => change slot) =
      editSlot tables bank index change := by
  funext other
  unfold editSlot
  split
  · rw [if_pos rfl, SlotTable.modify_modify]
    unfold SlotTable.modify
    congr 1
    refine List.ext_getElem? fun position => ?_
    rw [List.getElem?_modify, List.getElem?_modify]
    by_cases here : index = position
    · subst here
      change (tables bank).slots[index]? = some slot at there
      simp [there]
    · simp [here]
  · rfl

theorem ThreadPoints.table_setHandle (points : ThreadPoints) (bank : RegisterBank) (index : Nat)
    (handle : Option SlotHandle) :
    (points.setTable bank ((points.table bank).setHandle index handle)).table =
      editSlot points.table bank index fun slot => { slot with handle } := by
  funext other
  unfold editSlot
  split
  · next here => rw [here, table_setTable_self, SlotTable.setHandle]
  · next elsewhere => rw [table_setTable_of_ne _ _ elsewhere]

end Editing

/-- The tables of a thread and its live registrations mirror each other. Numbers
are below the next one, and those that `fired` may be gone. -/
structure Mirrors (tables : RegisterBank → SlotTable) (live : List (Int × Registration))
    (fired : Int → Prop) (next : Int) : Prop where
  issued : ∀ bank index slot number, (tables bank).get? index = some slot →
    slot.handle = some ⟨number⟩ → number < next
  owned : ∀ entry ∈ live, ∃ bank index slot, (tables bank).get? index = some slot ∧
    slot.handle = some ⟨entry.1⟩ ∧ slot.point = some entry.2.point
  apart : ∀ bank index slot other position twin handle, (tables bank).get? index = some slot →
    (tables other).get? position = some twin → slot.handle = some handle →
    twin.handle = some handle → other = bank ∧ position = index
  registered : ∀ bank index slot point, (tables bank).get? index = some slot →
    slot.point = some point → ∃ number, slot.handle = some ⟨number⟩ ∧
      ((number, ⟨point, .ofPoint point⟩) ∈ live ∨ fired number)

namespace Mirrors

variable {tables : RegisterBank → SlotTable} {live now : List (Int × Registration)}
  {fired also : Int → Prop} {next upper : Int} {bank : RegisterBank} {index : Nat} {slot : Slot}

theorem later (mirrors : Mirrors tables live fired next) (more : next ≤ upper) :
    Mirrors tables live fired upper where
  issued bank index slot number there kept :=
    Int.lt_of_lt_of_le (mirrors.issued bank index slot number there kept) more
  owned := mirrors.owned
  apart := mirrors.apart
  registered := mirrors.registered

/-- Registrations that fire may be gone afterwards. -/
theorem fire (mirrors : Mirrors tables live fired next) (fewer : ∀ entry ∈ now, entry ∈ live)
    (before : ∀ number, fired number → also number)
    (gone : ∀ entry ∈ live, entry ∈ now ∨ also entry.1) : Mirrors tables now also next where
  issued := mirrors.issued
  owned entry member := mirrors.owned entry (fewer entry member)
  apart := mirrors.apart
  registered bank index slot point there holds := by
    obtain ⟨number, kept, state⟩ := mirrors.registered bank index slot point there holds
    refine ⟨number, kept, ?_⟩
    rcases state with member | done
    · exact gone _ member
    · exact .inr (before number done)

/-- For another thread, all handles that there are count as gone. -/
theorem detached (mirrors : Mirrors tables live fired next) : Mirrors tables [] (· < next) next where
  issued := mirrors.issued
  owned entry member := by cases member
  apart := mirrors.apart
  registered bank index slot point there holds := by
    obtain ⟨number, kept, _⟩ := mirrors.registered bank index slot point there holds
    exact ⟨number, kept, .inr (mirrors.issued bank index slot number there kept)⟩

theorem of_free (isFree : ∀ bank index slot, (tables bank).get? index = some slot → slot = .free)
    (fired : Int → Prop) (next : Int) : Mirrors tables [] fired next where
  issued bank index slot number there kept := by
    simp [isFree bank index slot there, Slot.free] at kept
  owned entry member := by cases member
  apart bank index slot other position twin handle there also kept same := by
    simp [isFree bank index slot there, Slot.free] at kept
  registered bank index slot point there holds := by
    simp [isFree bank index slot there, Slot.free] at holds

theorem eq_nil_of_free (mirrors : Mirrors tables live fired next)
    (isFree : ∀ bank index slot, (tables bank).get? index = some slot → slot = .free) :
    live = [] := by
  apply List.eq_nil_iff_forall_not_mem.mpr
  intro entry member
  obtain ⟨bank, index, slot, there, kept, _⟩ := mirrors.owned entry member
  simp [isFree bank index slot there, Slot.free] at kept

/-- Slots that keep their points and handles keep their registrations. -/
theorem edit (mirrors : Mirrors tables live fired next) {change : Slot → Slot}
    (points : ∀ slot, (change slot).point = slot.point)
    (handles : ∀ slot, (change slot).handle = slot.handle) (bank : RegisterBank) (index : Nat) :
    Mirrors (editSlot tables bank index change) live fired next := by
  have former : ∀ {other position slot},
      (editSlot tables bank index change other).get? position = some slot →
      ∃ before, (tables other).get? position = some before ∧ slot.point = before.point ∧
        slot.handle = before.handle := by
    intro other position slot there
    rcases get?_editSlot_cases there with ⟨rfl, rfl, before, found, rfl⟩ | ⟨_, found⟩
    · exact ⟨before, found, points before, handles before⟩
    · exact ⟨slot, found, rfl, rfl⟩
  refine ⟨?_, ?_, ?_, ?_⟩
  · intro other position slot number there kept
    obtain ⟨before, found, _, same⟩ := former there
    exact mirrors.issued other position before number found (same ▸ kept)
  · intro entry member
    obtain ⟨other, position, before, found, kept, holds⟩ := mirrors.owned entry member
    by_cases here : other = bank ∧ position = index
    · obtain ⟨rfl, rfl⟩ := here
      exact ⟨other, position, _, get?_editSlot_self found, (handles before).trans kept,
        (points before).trans holds⟩
    · exact ⟨other, position, before, (get?_editSlot_of_ne here).trans found, kept, holds⟩
  · intro first position slot other place twin handle there too kept same
    obtain ⟨before, found, _, equal⟩ := former there
    obtain ⟨model, listed, _, alike⟩ := former too
    exact mirrors.apart first position before other place model handle found listed (equal ▸ kept)
      (alike ▸ same)
  · intro other position slot point there holds
    obtain ⟨before, found, equal, alike⟩ := former there
    rw [alike]
    exact mirrors.registered other position before point found (equal ▸ holds)

/-- A slot becomes free, and its registration is gone. -/
theorem free (mirrors : Mirrors tables live fired next) (there : (tables bank).get? index = some slot)
    (left : ∀ entry, entry ∈ now ↔ entry ∈ live ∧ slot.handle ≠ some ⟨entry.1⟩) :
    Mirrors (editSlot tables bank index fun _ => .free) now fired next := by
  have former : ∀ {other position twin},
      (editSlot tables bank index (fun _ => .free) other).get? position = some twin →
      twin = .free ∨ ¬(other = bank ∧ position = index) ∧
        (tables other).get? position = some twin := by
    intro other position twin there
    rcases get?_editSlot_cases there with ⟨rfl, rfl, before, found, rfl⟩ | found
    · exact .inl rfl
    · exact .inr found
  refine ⟨?_, ?_, ?_, ?_⟩
  · intro other position twin number found kept
    rcases former found with rfl | ⟨_, found⟩
    · cases kept
    · exact mirrors.issued other position twin number found kept
  · intro entry member
    obtain ⟨before, different⟩ := (left entry).mp member
    obtain ⟨other, position, owner, found, kept, holds⟩ := mirrors.owned entry before
    refine ⟨other, position, owner, ?_, kept, holds⟩
    rw [get?_editSlot_of_ne]
    · exact found
    · rintro ⟨rfl, rfl⟩
      rw [there] at found
      cases found
      exact different kept
  · intro first position twin other place model handle found too kept same
    rcases former found with rfl | ⟨_, found⟩
    · cases kept
    · rcases former too with rfl | ⟨_, too⟩
      · cases same
      · exact mirrors.apart first position twin other place model handle found too kept same
  · intro other position twin point found holds
    rcases former found with rfl | ⟨elsewhere, found⟩
    · cases holds
    · obtain ⟨number, kept, state⟩ := mirrors.registered other position twin point found holds
      refine ⟨number, kept, state.imp_left fun member => (left _).mpr ⟨member, fun same => ?_⟩⟩
      exact elsewhere (mirrors.apart bank index slot other position twin _ there found same kept)

/-- A free slot is taken, and its point registered under the next number. -/
theorem occupy (mirrors : Mirrors tables live fired next)
    (there : (tables bank).get? index = some slot) (isFree : slot.point = none)
    {point : EncodedPoint} {references : Nat}
    (gained : ∀ entry, entry ∈ now ↔
      entry ∈ live ∨ entry = (next, ⟨point, .ofPoint point⟩)) (more : next < upper) :
    Mirrors (editSlot tables bank index fun _ => ⟨some point, references, some ⟨next⟩⟩) now fired
      upper := by
  refine ⟨?_, ?_, ?_, ?_⟩
  · intro other position twin number found kept
    rcases get?_editSlot_cases found with ⟨_, _, _, _, rfl⟩ | ⟨_, found⟩
    · cases kept
      exact more
    · exact Int.lt_trans (mirrors.issued other position twin number found kept) more
  · intro entry member
    rcases (gained entry).mp member with before | rfl
    · obtain ⟨other, position, owner, found, kept, holds⟩ := mirrors.owned entry before
      refine ⟨other, position, owner, ?_, kept, holds⟩
      rw [get?_editSlot_of_ne]
      · exact found
      · rintro ⟨rfl, rfl⟩
        rw [there] at found
        cases found
        rw [isFree] at holds
        cases holds
    · exact ⟨bank, index, _, get?_editSlot_self there, rfl, rfl⟩
  · intro first position twin other place model handle found too kept same
    rcases get?_editSlot_cases found with ⟨rfl, rfl, _, _, rfl⟩ | ⟨_, found⟩
    · rcases get?_editSlot_cases too with ⟨rfl, rfl, _, _, rfl⟩ | ⟨_, too⟩
      · exact ⟨rfl, rfl⟩
      · cases kept
        exact absurd (mirrors.issued other place model next too same) (Int.lt_irrefl _)
    · rcases get?_editSlot_cases too with ⟨_, _, _, _, rfl⟩ | ⟨_, too⟩
      · cases same
        exact absurd (mirrors.issued first position twin next found kept) (Int.lt_irrefl _)
      · exact mirrors.apart first position twin other place model handle found too kept same
  · intro other position twin held found holds
    rcases get?_editSlot_cases found with ⟨_, _, _, _, rfl⟩ | ⟨_, found⟩
    · cases holds
      exact ⟨next, rfl, .inl ((gained _).mpr (.inr rfl))⟩
    · obtain ⟨number, kept, state⟩ := mirrors.registered other position twin held found holds
      exact ⟨number, kept, state.imp_left fun member => (gained _).mpr (.inl member)⟩

end Mirrors

section Room

variable {tables : RegisterBank → SlotTable} {live : List (Int × Registration)}
  {fired : Int → Prop} {next : Int} {capacity : RegisterBank → Nat} {bank : RegisterBank}

def livePoints (live : List (Int × Registration)) (bank : RegisterBank) : List EncodedPoint :=
  (live.filter fun (_, registration) => registration.point.kind.bank = bank).map
    fun (_, registration) => registration.point

theorem ThreadRegisters.used_eq (registers : ThreadRegisters) (bank : RegisterBank) :
    registers.used bank = ((livePoints registers.registrations bank).map EncodedPoint.cost).sum := by
  unfold used livePoints
  rw [List.map_map]
  rfl

/-- Different points of a table take no more than all of them. -/
theorem SlotTable.sum_cost_le {table : SlotTable} {points : List EncodedPoint}
    (different : points.Nodup) (held : ∀ point ∈ points, point ∈ table.points) :
    (points.map EncodedPoint.cost).sum ≤ table.used := by
  obtain ⟨chosen, same, inside⟩ := different.subperm held
  rw [used_eq, ← (same.map EncodedPoint.cost).sum_eq]
  exact (inside.map EncodedPoint.cost).sum_le_sum fun _ _ => Nat.zero_le _

namespace Mirrors

theorem held (mirrors : Mirrors tables live fired next)
    (kept : ∀ bank, (tables bank).IsKept bank) {entry : Int × Registration} (member : entry ∈ live) :
    ∃ index slot, (tables entry.2.point.kind.bank).get? index = some slot ∧
      slot.handle = some ⟨entry.1⟩ ∧ slot.point = some entry.2.point := by
  obtain ⟨bank, index, slot, there, handle, holds⟩ := mirrors.owned entry member
  obtain ⟨sorted, _⟩ := (kept bank).of_holds there holds
  exact ⟨index, slot, sorted ▸ there, handle, holds⟩

theorem exists_of_mem_livePoints (mirrors : Mirrors tables live fired next)
    (kept : ∀ bank, (tables bank).IsKept bank) {point : EncodedPoint}
    (member : point ∈ livePoints live bank) :
    ∃ index slot, (tables bank).get? index = some slot ∧ slot.point = some point := by
  obtain ⟨entry, listed, rfl⟩ := List.mem_map.mp member
  obtain ⟨there, here⟩ := List.mem_filter.mp listed
  obtain ⟨index, slot, found, _, holds⟩ := mirrors.held kept there
  simp only [decide_eq_true_eq] at here
  exact ⟨index, slot, here ▸ found, holds⟩

/-- No point of a bank is registered twice. -/
theorem nodup_livePoints (mirrors : Mirrors tables live fired next)
    (orderly : ∀ bank, (tables bank).Orderly bank (capacity bank))
    (distinct : (live.map Prod.fst).Nodup) (bank : RegisterBank) :
    (livePoints live bank).Nodup := by
  unfold livePoints
  apply List.Nodup.map_on
  · intro entry first twin second same
    obtain ⟨index, slot, there, handle, holds⟩ :=
      mirrors.held (fun bank => (orderly bank).kept) (List.mem_filter.mp first).1
    obtain ⟨position, model, found, kept, also⟩ :=
      mirrors.held (fun bank => (orderly bank).kept) (List.mem_filter.mp second).1
    dsimp only at same
    rw [← same] at found also
    have equal := (orderly _).tidy.apart there holds found also
    subst equal
    rw [there] at found
    cases found
    rw [handle] at kept
    have number : entry.1 = twin.1 := by simpa using kept
    exact List.inj_on_of_nodup_map distinct (List.mem_filter.mp first).1 (List.mem_filter.mp second).1
      number
  · exact distinct.of_map.filter _

/-- The registrations of a thread take no more than its slots. -/
theorem used_le {registers : ThreadRegisters}
    (mirrors : Mirrors tables registers.registrations fired next)
    (orderly : ∀ bank, (tables bank).Orderly bank (capacity bank))
    (distinct : (registers.registrations.map Prod.fst).Nodup) (bank : RegisterBank) :
    registers.used bank ≤ (tables bank).used := by
  rw [ThreadRegisters.used_eq]
  refine SlotTable.sum_cost_le (mirrors.nodup_livePoints orderly distinct bank) fun point member => ?_
  obtain ⟨index, slot, there, holds⟩ :=
    mirrors.exists_of_mem_livePoints (fun bank => (orderly bank).kept) member
  exact List.mem_filterMap.mpr ⟨slot, List.mem_of_getElem? there, holds⟩

end Mirrors

end Room

end DebugRegisters
