import DebugRegisters.Proofs.Encoding.Windows
import DebugRegisters.Session

/-!
# Reported addresses

PowerPC hardware reports accesses to data by the granule they are in, four bytes on
embedded processors and eight on others. Only where an embedded processor watches a
range is the address itself reported. An address that is compared with the bytes of a
watch has to be taken for its whole granule wherever it stands for one.
-/

set_option autoImplicit false

namespace DebugRegisters

namespace Address

theorem alignDown_alignDown (address : Address) (window : UInt64) :
    (address.alignDown window).alignDown window = address.alignDown window := by
  unfold alignDown
  rw [UInt64.and_assoc, UInt64.and_self]

end Address

namespace Capabilities

def granule (caps : Capabilities) : UInt64 :=
  if caps.architecture.isBookE then 4 else 8

/-- The addresses that are reported are compared with the watched bytes as they are. -/
def comparesExactly (caps : Capabilities) : Bool :=
  caps.interface == .handles && caps.architecture.isBookE

/-- The address that is reported for an access to a byte of a watch of `length` bytes: the
byte itself where a range is watched by an embedded processor with handles, or else its
granule. -/
def reported (caps : Capabilities) (length : UInt64) (byte : Address) : Address :=
  if caps.comparesExactly && caps.usesRanges length then byte
  else byte.alignDown caps.granule

variable {caps : Capabilities} {start address byte : Address} {length : UInt64}

/-- A byte is in the granule that begins at its address rounded down, and the granule
ends within the address space. -/
theorem toNat_granule (caps : Capabilities) (byte : Address) :
    (byte.alignDown caps.granule).toNat ≤ byte.toNat ∧
      byte.toNat < (byte.alignDown caps.granule).toNat + caps.granule.toNat ∧
      (byte.alignDown caps.granule).toNat + caps.granule.toNat ≤ 2 ^ 64 := by
  have bounded : byte.toNat < 2 ^ 64 := byte.value.toNat_lt
  unfold granule
  split
  · have four : (4 : UInt64).toNat = 4 := rfl
    have base := @Address.toNat_alignDown byte 4 2 four
    rw [four] at base ⊢
    omega
  · have eight : (8 : UInt64).toNat = 8 := rfl
    have base := byte.toNat_alignDown_eight
    omega

/-- The bits that the code drops from an address are those below the granule's size. -/
theorem granule_sub_one (caps : Capabilities) :
    caps.granule - 1 = (if caps.architecture.isBookE then 3 else 7) ∧
      (caps.granule - 1).toNat + 1 = caps.granule.toNat := by
  unfold granule
  split <;> exact ⟨rfl, rfl⟩

theorem trapBelongs_of_exact (exact : caps.comparesExactly = true)
    (below : start.toNat + length.toNat < 2 ^ 64) :
    caps.trapBelongs address start length = true ↔
      start.toNat ≤ address.toNat ∧ address.toNat ≤ start.toNat + length.toNat := by
  unfold comparesExactly at exact
  unfold trapBelongs
  dsimp only
  rw [if_pos exact, Bool.and_eq_true, decide_eq_true_iff, decide_eq_true_iff]
  change start ≤ address ∧ address ≤ start.advance length ↔ _
  rw [Address.le_iff_toNat_le, Address.le_iff_toNat_le, Address.toNat_advance below]

/-- Elsewhere an address belongs to a watch if its granule has a byte of the watch. -/
theorem trapBelongs_of_granular (power : caps.architecture.isPowerPC = true)
    (granular : caps.comparesExactly = false) (some : 0 < length.toNat)
    (below : start.toNat + length.toNat < 2 ^ 64) :
    caps.trapBelongs address start length = true ↔
      start.toNat < (address.alignDown caps.granule).toNat + caps.granule.toNat ∧
        (address.alignDown caps.granule).toNat < start.toNat + length.toNat := by
  obtain ⟨_, _, whole⟩ := caps.toNat_granule address
  obtain ⟨lowBits, size⟩ := caps.granule_sub_one
  have one : (1 : UInt64).toNat = 1 := rfl
  have last : ((address.alignDown caps.granule).advance (caps.granule - 1)).toNat + 1 =
      (address.alignDown caps.granule).toNat + caps.granule.toNat := by
    rw [Address.toNat_advance (by omega)]
    omega
  have final : ((start.advance length).retreat 1).toNat + 1 = start.toNat + length.toNat := by
    have stop := Address.toNat_advance below
    rw [Address.toNat_retreat (by omega)]
    omega
  unfold comparesExactly at granular
  unfold trapBelongs
  dsimp only
  rw [if_neg (by simp [granular]), if_pos power, ← lowBits, Bool.and_eq_true, decide_eq_true_iff,
    decide_eq_true_iff]
  change start ≤ (address.alignDown caps.granule).advance (caps.granule - 1) ∧
    address.alignDown caps.granule ≤ (start.advance length).retreat 1 ↔ _
  rw [Address.le_iff_toNat_le, Address.le_iff_toNat_le]
  omega

/-- An address that is reported for an access to a byte of a watch belongs to the watch,
with one exception. An embedded processor with handles may watch no range and so report
the byte by its granule, which is compared like the byte of a range: it is taken for an
access outside the watch if the watch begins inside the granule. -/
theorem reported_address_belongs_iff (power : caps.architecture.isPowerPC = true)
    (first : start.toNat ≤ byte.toNat) (last : byte.toNat < start.toNat + length.toNat)
    (below : start.toNat + length.toNat + 8 < 2 ^ 64) :
    caps.trapBelongs (caps.reported length byte) start length = true ↔
      (caps.comparesExactly = true → caps.usesRanges length = false →
        start.toNat ≤ (byte.alignDown caps.granule).toNat) := by
  obtain ⟨down, up, _⟩ := caps.toNat_granule byte
  unfold reported
  cases compared : caps.comparesExactly with
  | true =>
      rw [trapBelongs_of_exact compared (by omega), Bool.true_and]
      cases caps.usesRanges length with
      | true => exact iff_of_true ⟨first, Nat.le_of_lt last⟩ nofun
      | false =>
          constructor
          · exact fun belongs _ _ => belongs.1
          · intro aligned
            exact ⟨aligned rfl rfl, Nat.le_trans down (Nat.le_of_lt last)⟩
  | false =>
      rw [trapBelongs_of_granular power compared (by omega) (by omega), Bool.false_and,
        if_neg Bool.false_ne_true, byte.alignDown_alignDown]
      exact iff_of_true ⟨by omega, by omega⟩ nofun

/-- The hardware cannot watch ranges, and the watch begins with its granule. -/
theorem reported_address_belongs_iff_word :
    let reply : Power.HardwareReply :=
      { version := 1, instructionPoints := 4, dataPoints := 2, comparators := 0,
        dataAlignment := 4, comparatorWidth := 0, features := 0x1 }
    ∃ caps, ofReply? .powerpcBookE reply = some caps ∧ caps.usesRanges 4 = false ∧
      caps.reported 4 ⟨0x1006⟩ = ⟨0x1004⟩ ∧
      caps.trapBelongs (caps.reported 4 ⟨0x1006⟩) ⟨0x1004⟩ 4 = true := by
  intro reply
  refine ⟨_, rfl, by decide +kernel, by decide +kernel, ?_⟩
  exact (reported_address_belongs_iff rfl (by decide) (by decide) (by decide)).mpr
    fun _ _ => by decide +kernel

/-- A single byte is no range. On an embedded processor with handles, the access to it is
reported by its granule and not taken for one. -/
theorem reported_granule_misses_byte :
    let reply : Power.HardwareReply :=
      { version := 1, instructionPoints := 4, dataPoints := 2, comparators := 2,
        dataAlignment := 4, comparatorWidth := 4, features := 0xf }
    ∃ caps, ofReply? .powerpcBookE reply = some caps ∧ caps.usesRanges 1 = false ∧
      caps.reported 1 ⟨0x1002⟩ = ⟨0x1000⟩ ∧
      caps.trapBelongs (caps.reported 1 ⟨0x1002⟩) ⟨0x1002⟩ 1 = false := by
  intro reply
  exact ⟨_, rfl, by decide +kernel, by decide +kernel, by decide +kernel⟩

end Capabilities

end DebugRegisters
