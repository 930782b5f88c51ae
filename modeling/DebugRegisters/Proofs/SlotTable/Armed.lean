import DebugRegisters.Proofs.Arm.ControlWord
import DebugRegisters.Proofs.Encoding.Coverage
import DebugRegisters.Proofs.SlotTable.Contents

/-!
# The pairs that a table arms

The armed pairs of a table are those of the points that it holds, and a pair
selects the bytes that its point does.
-/

set_option autoImplicit false

namespace DebugRegisters

open Arm

namespace Arm.RegisterBlock

theorem mem_enabled_iff {block : RegisterBlock} {index : Nat} {pair : RegisterPair} :
    (index, pair) ∈ block.enabled ↔ block.pairs[index]? = some pair ∧ pair.isEnabled = true := by
  unfold enabled
  rw [List.mem_filter]
  refine and_congr_left fun _ => ?_
  constructor
  · intro member
    obtain ⟨⟨other, position⟩, there, same⟩ := List.mem_map.mp member
    cases same
    exact List.mem_zipIdx_iff_getElem?.mp there
  · intro found
    exact List.mem_map.mpr ⟨(pair, index), List.mem_zipIdx_iff_getElem?.mpr found, rfl⟩

end Arm.RegisterBlock

namespace SlotTable

variable {table : SlotTable}

theorem registerPair_of_bytes {slot : Slot} {point : EncodedPoint} {mask : ByteMask}
    (holds : slot.point = some point) (masked : point.span = .bytes mask) :
    slot.registerPair = ⟨point.address.value, ControlWord.encode point.kind mask⟩ := by
  obtain ⟨kind, address, span, comparator, watched, registers⟩ := point
  cases masked
  simp only [Slot.registerPair, holds]

theorem armed_of_mem_contents {point : EncodedPoint} {mask : ByteMask}
    (member : point ∈ table.contents) (masked : point.span = .bytes mask) :
    ∃ entry ∈ table.registerBlock.enabled,
      entry.2 = ⟨point.address.value, ControlWord.encode point.kind mask⟩ := by
  obtain ⟨slot, there, holds, _⟩ := mem_contents_iff.mp member
  obtain ⟨index, found⟩ := List.mem_iff_getElem?.mp there
  have pair := registerPair_of_bytes holds masked
  refine ⟨(index, slot.registerPair), ?_, pair⟩
  refine Arm.RegisterBlock.mem_enabled_iff.mpr ⟨?_, ?_⟩
  · change (table.slots.map Slot.registerPair)[index]? = _
    rw [List.getElem?_map, found]
    rfl
  · rw [pair]
    exact ControlWord.isEnabled_encode point.kind mask

theorem point_of_armed {bank : RegisterBank} (kept : table.IsKept bank) {entry : Nat × RegisterPair}
    (member : entry ∈ table.registerBlock.enabled) :
    ∃ point mask, point ∈ table.contents ∧ point.span = .bytes mask ∧
      entry.2 = ⟨point.address.value, ControlWord.encode point.kind mask⟩ := by
  obtain ⟨index, pair⟩ := entry
  obtain ⟨found, enabled⟩ := Arm.RegisterBlock.mem_enabled_iff.mp member
  change (table.slots.map Slot.registerPair)[index]? = some pair at found
  rw [List.getElem?_map] at found
  obtain ⟨slot, there, rfl⟩ := Option.map_eq_some_iff.mp found
  have stored : slot ∈ table.slots := List.mem_of_getElem? there
  rcases kept slot stored with rfl | ⟨point, holds, _, counted⟩
  · exact absurd enabled (by decide)
  · cases masked : point.span with
    | bytes mask =>
        exact ⟨point, mask, mem_contents_iff.mpr ⟨slot, stored, holds, counted⟩, masked,
          registerPair_of_bytes holds masked⟩
    | exact | range | masked =>
        obtain ⟨kind, address, span, comparator, watched, registers⟩ := point
        cases masked
        simp only [Slot.registerPair, holds] at enabled
        exact absurd enabled (by decide)

end SlotTable

theorem EncodedPoint.selects_iff_pair {point : EncodedPoint} {mask : ByteMask}
    (masked : point.span = .bytes mask) (byte : Address) :
    point.Selects byte.toNat ↔
      RegisterPair.Selects ⟨point.address.value, ControlWord.encode point.kind mask⟩ byte := by
  have window : (byte.alignDown 8).toNat = byte.toNat - byte.toNat % 8 :=
    byte.toNat_alignDown_eight
  have offset : (byte.offsetIn 8).toNat = byte.toNat % 8 := byte.toNat_offsetIn_eight
  constructor
  · rintro ⟨other, same, aligned, chosen⟩
    rw [masked] at same
    cases same
    refine ⟨?_, ?_⟩
    · rw [← window, Address.toNat_inj] at aligned
      exact congrArg Address.value aligned
    · rw [ControlWord.mask_encode]
      change mask.selects (byte.offsetIn 8).toNat = true
      rw [offset]
      exact chosen
  · rintro ⟨aligned, chosen⟩
    refine ⟨mask, masked, ?_, ?_⟩
    · have same : point.address = byte.alignDown 8 := congrArg Address.mk aligned
      rw [same, window]
    · rw [ControlWord.mask_encode] at chosen
      change mask.selects (byte.offsetIn 8).toNat = true at chosen
      rwa [offset] at chosen

end DebugRegisters
