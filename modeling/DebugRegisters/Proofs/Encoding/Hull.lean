import DebugRegisters.Proofs.Encoding.Windows
import Mathlib.Control.Monad.Basic

/-!
# The hull of a masked watch

A masked watch traps on the addresses that agree with one address in the bits of a
mask. Where the mask has holes they are no interval: there are gaps between them. The
range that is watched begins with the least of them and ends behind the greatest.
-/

set_option autoImplicit false

namespace DebugRegisters

namespace Address

def AgreesIn (address : Address) (mask : UInt64) (other : Address) : Prop :=
  other.value &&& mask = address.value &&& mask

def lowest (address : Address) (mask : UInt64) : Address :=
  ⟨address.value &&& mask⟩

def highest (address : Address) (mask : UInt64) : Address :=
  ⟨address.value ||| ~~~mask⟩

variable {address other : Address} {mask : UInt64}

theorem agreesIn_lowest (address : Address) (mask : UInt64) :
    address.AgreesIn mask (address.lowest mask) := by
  unfold AgreesIn lowest
  rw [UInt64.and_assoc, UInt64.and_self]

theorem agreesIn_highest (address : Address) (mask : UInt64) :
    address.AgreesIn mask (address.highest mask) := by
  refine UInt64.toBitVec_inj.mp ?_
  change (address.value.toBitVec ||| ~~~mask.toBitVec) &&& mask.toBitVec =
    address.value.toBitVec &&& mask.toBitVec
  rw [BitVec.and_comm, BitVec.and_or_distrib_left]
  simp [BitVec.and_comm]

/-- Whatever agrees lies above the lowest by bits outside the mask only. -/
theorem AgreesIn.toNat_eq (agrees : address.AgreesIn mask other) :
    other.toNat = (address.lowest mask).toNat + (other.value &&& ~~~mask).toNat := by
  have parts := (Word.and_not_add_and other.value mask).2
  rw [show other.value &&& mask = address.value &&& mask from agrees] at parts
  exact parts.symm.trans (Nat.add_comm _ _)

theorem toNat_highest (address : Address) (mask : UInt64) :
    (address.highest mask).toNat = (address.lowest mask).toNat + (~~~mask).toNat := by
  have outside : (address.highest mask).value &&& ~~~mask = ~~~mask := by
    refine UInt64.toBitVec_inj.mp ?_
    change (address.value.toBitVec ||| ~~~mask.toBitVec) &&& ~~~mask.toBitVec = ~~~mask.toBitVec
    ext index inside
    rw [BitVec.getElem_and, BitVec.getElem_or]
    cases (~~~mask.toBitVec)[index] <;> simp
  rw [(agreesIn_highest address mask).toNat_eq, outside]

theorem AgreesIn.lowest_le (agrees : address.AgreesIn mask other) :
    (address.lowest mask).toNat ≤ other.toNat := by
  rw [agrees.toNat_eq]
  exact Nat.le_add_right _ _

theorem AgreesIn.le_highest (agrees : address.AgreesIn mask other) :
    other.toNat ≤ (address.highest mask).toNat := by
  rw [agrees.toNat_eq, toNat_highest, UInt64.toNat_and]
  exact Nat.add_le_add_left Nat.and_le_right _

end Address

/-- The range has all the addresses that match, and they begin and end it. -/
structure AddressRange.IsHull (range : AddressRange) (matching : Address → Prop) : Prop where
  covers : ∀ address, matching address → range.contains address = true
  first : matching range.start
  last : matching (range.stop.retreat 1)

namespace Encoding

variable {kind : PointKind} {address : Address} {mask : UInt64} {caps : Capabilities}
  {point : EncodedPoint}

/-- The watched range goes from the lowest address that agrees to the highest. -/
theorem watched_of_encodeMasked (encoded : encodeMasked kind address mask caps = .ok point)
    (below : (address.highest mask).toNat + 1 < 2 ^ 64) :
    point.watched.start = address.lowest mask ∧
      point.watched.stop.toNat = (address.highest mask).toNat + 1 := by
  unfold encodeMasked at encoded
  split at encoded
  · cases encoded
  · split at encoded
    · cases encoded
    · cases encoded
      refine ⟨rfl, ?_⟩
      have length := Word.toNat_saturatingAdd (~~~mask) 1
      have one : (1 : UInt64).toNat = 1 := rfl
      rw [Address.toNat_highest] at below ⊢
      refine (AddressRange.toNat_stop_ofLength ?_).trans ?_
      · change (address.lowest mask).toNat + (Word.saturatingAdd (~~~mask) 1).toNat < 2 ^ 64
        omega
      · change (address.lowest mask).toNat + (Word.saturatingAdd (~~~mask) 1).toNat = _
        omega

/-- What a masked watch watches is the shortest range with all the addresses that agree
in the mask, whether or not the mask has holes. -/
theorem masked_watch_is_hull (encoded : encodeMasked kind address mask caps = .ok point)
    (below : (address.value ||| ~~~mask).toNat + 1 < 2 ^ 64) :
    point.watched.IsHull (address.AgreesIn mask) := by
  obtain ⟨start, stop⟩ := watched_of_encodeMasked encoded below
  refine ⟨fun other agrees => ?_, ?_, ?_⟩
  · have above := agrees.lowest_le
    have under := agrees.le_highest
    rw [AddressRange.contains_iff, start, stop]
    omega
  · rw [start]
    exact address.agreesIn_lowest mask
  · have last : point.watched.stop.retreat 1 = address.highest mask := by
      have one : (1 : UInt64).toNat = 1 := rfl
      rw [← Address.toNat_inj, Address.toNat_retreat (by omega)]
      omega
    rw [last]
    exact address.agreesIn_highest mask

/-- The mask has holes at bits 1 and 3, so four addresses are watched: two neighbours of
`0x1000` are, and `0x1001` is not. -/
theorem masked_watch_is_hull_holes :
    let reply : Power.HardwareReply :=
      { version := 1, instructionPoints := 4, dataPoints := 2, comparators := 2,
        dataAlignment := 4, comparatorWidth := 4, features := 0xf }
    let mask : UInt64 := 0xfffffffffffffff5
    ∃ caps point, Capabilities.ofReply? .powerpcBookE reply = some caps ∧
      encodeMasked .write ⟨0x1002⟩ mask caps = .ok point ∧
      point.watched = ⟨⟨0x1000⟩, ⟨0x100b⟩⟩ ∧
      point.watched.IsHull (Address.AgreesIn ⟨0x1002⟩ mask) ∧
      ¬Address.AgreesIn ⟨0x1002⟩ mask ⟨0x1001⟩ := by
  intro reply mask
  let point : EncodedPoint :=
    ⟨.write, ⟨0x1002⟩, .masked mask, none, ⟨⟨0x1000⟩, ⟨0x100b⟩⟩, 2⟩
  let caps := (Capabilities.ofReply? .powerpcBookE reply).getD (.unavailable .powerpcBookE)
  have encoded : encodeMasked .write ⟨0x1002⟩ mask caps = .ok point := by decide +kernel
  have gap : ¬Address.AgreesIn ⟨0x1002⟩ mask ⟨0x1001⟩ := by
    unfold Address.AgreesIn
    decide
  exact ⟨caps, point, rfl, encoded, rfl, masked_watch_is_hull encoded (by decide), gap⟩

end Encoding

end DebugRegisters
