import Mathlib.Algebra.Group.Nat.Defs
import Mathlib.Data.List.Find
import DebugRegisters.Restriction

/-!
# Rounding to a mask table

A valid table lists low masks in increasing order. For such masks the order of
numbers is the order of inclusion, so rounding a mask up and rounding up the
number of bytes that it reaches give the same entry. A mask of the table is left
as it is.
-/

set_option autoImplicit false

namespace DebugRegisters

def ByteMask.IsWithin (mask other : ByteMask) : Prop :=
  ∀ byte, mask.selects byte = true → other.selects byte = true

namespace MaskTable

def IsValid (table : MaskTable) : Prop :=
  ∃ masks, ofMasks masks = .ok table

theorem mem_insertMask {mask other : UInt8} {masks : List UInt8} :
    other ∈ insertMask mask masks ↔ other = mask ∨ other ∈ masks := by
  induction masks with
  | nil => simp [insertMask]
  | cons first rest ih =>
      unfold insertMask
      split
      · simp
      · split
        · next same => simp [same]
        · rw [List.mem_cons, ih, List.mem_cons]
          constructor
          · rintro (here | here | here)
            · exact .inr (.inl here)
            · exact .inl here
            · exact .inr (.inr here)
          · rintro (here | here | here)
            · exact .inr (.inl here)
            · exact .inl here
            · exact .inr (.inr here)

theorem pairwise_insertMask {mask : UInt8} {masks : List UInt8}
    (sorted : masks.Pairwise (· < ·)) : (insertMask mask masks).Pairwise (· < ·) := by
  induction masks with
  | nil => exact List.pairwise_singleton _ _
  | cons first rest ih =>
      obtain ⟨least, later⟩ := List.pairwise_cons.mp sorted
      unfold insertMask
      split
      · next below =>
          refine List.pairwise_cons.mpr ⟨fun other member => ?_, sorted⟩
          rcases List.mem_cons.mp member with rfl | further
          · exact below
          · exact UInt8.lt_trans below (least other further)
      · split
        · exact sorted
        · next above different =>
            refine List.pairwise_cons.mpr ⟨fun other member => ?_, ih later⟩
            rcases mem_insertMask.mp member with rfl | further
            · exact UInt8.lt_of_le_of_ne (UInt8.not_lt.mp above) fun same => different same.symm
            · exact least other further

theorem pairwise_sortMasks (masks : List UInt8) : (sortMasks masks).Pairwise (· < ·) := by
  induction masks with
  | nil => exact List.Pairwise.nil
  | cons mask rest ih => exact pairwise_insertMask ih

variable {table : MaskTable}

theorem IsValid.low (valid : table.IsValid) : ∀ mask ∈ table.masks, isLowMask mask = true := by
  obtain ⟨masks, built⟩ := valid
  unfold ofMasks at built
  dsimp only at built
  split at built
  · cases built
  · next shaped =>
      split at built
      · cases built
        intro mask member
        simpa using List.find?_eq_none.mp shaped mask member
      · cases built

theorem IsValid.sorted (valid : table.IsValid) : table.masks.Pairwise (· < ·) := by
  obtain ⟨masks, built⟩ := valid
  unfold ofMasks at built
  dsimp only at built
  split at built
  · cases built
  · split at built
    · cases built
      exact pairwise_sortMasks masks
    · cases built

def lowBits (count : Nat) : UInt8 :=
  UInt8.ofNat (1 <<< count - 1)

theorem eq_lowBits_of_isLowMask {mask : UInt8} (low : isLowMask mask = true) :
    ∃ count, 1 ≤ count ∧ count ≤ 8 ∧ mask = lowBits count := by
  have all : ∀ bits < 256, isLowMask (UInt8.ofNat bits) = true →
      ∃ count < 9, 1 ≤ count ∧ UInt8.ofNat bits = lowBits count := by
    decide +kernel
  obtain ⟨count, few, some, same⟩ := all mask.toNat mask.toNat_lt (by rwa [UInt8.ofNat_toNat])
  exact ⟨count, some, by omega, by rwa [UInt8.ofNat_toNat] at same⟩

theorem toNat_lowBits {count : Nat} (few : count ≤ 8) : (lowBits count).toNat = 2 ^ count - 1 := by
  have all : ∀ count < 9, (lowBits count).toNat = 2 ^ count - 1 := by decide
  exact all count (by omega)

theorem count_lowBits {count : Nat} (few : count ≤ 8) : ByteMask.count ⟨lowBits count⟩ = count := by
  have all : ∀ count < 9, ByteMask.count ⟨lowBits count⟩ = count := by decide +kernel
  exact all count (by omega)

theorem ofRun?_zero {count : Nat} (some : 1 ≤ count) (few : count ≤ 8) :
    ByteMask.ofRun? 0 count = .some ⟨lowBits count⟩ := by
  unfold ByteMask.ofRun?
  rw [if_neg (by omega)]
  rfl

theorem run_le_lowBits_iff {offset length count : Nat} (some : 1 ≤ length)
    (inside : offset + length ≤ 8) (few : count ≤ 8) :
    UInt8.ofNat ((1 <<< length - 1) <<< offset) ≤ lowBits count ↔ offset + length ≤ count := by
  have all : ∀ offset length count : Fin 9, 1 ≤ length.val → offset.val + length.val ≤ 8 →
      (UInt8.ofNat ((1 <<< length.val - 1) <<< offset.val) ≤ lowBits count.val ↔
        offset.val + length.val ≤ count.val) := by
    decide +kernel
  exact all ⟨offset, by omega⟩ ⟨length, by omega⟩ ⟨count, by omega⟩ some inside

/-- The entry that a run is rounded up to has as many bytes as the least length
that reaches the end of the run. -/
theorem ofRun?_minLength (valid : table.IsValid) {offset length : Nat} {mask : ByteMask}
    {bytes : UInt64} (run : ByteMask.ofRun? offset length = some mask)
    (reach : bytes.toNat = offset + length) :
    ByteMask.ofRun? 0 (table.minLength bytes).toNat = some (table.roundUp mask) := by
  unfold ByteMask.ofRun? at run
  split at run
  · cases run
  · next inside =>
      cases run
      have agree : ∀ candidate ∈ table.masks,
          decide (UInt8.ofNat ((1 <<< length - 1) <<< offset) ≤ candidate) =
            decide (bytes ≤ UInt64.ofNat (ByteMask.count ⟨candidate⟩)) := by
        intro candidate member
        obtain ⟨count, some, few, rfl⟩ := eq_lowBits_of_isLowMask (valid.low candidate member)
        rw [decide_eq_decide, run_le_lowBits_iff (by omega) (by omega) few, count_lowBits few,
          UInt64.le_iff_toNat_le, reach,
          UInt64.toNat_ofNat_of_lt' (show count < 2 ^ 64 by omega)]
      have found : table.masks.find? (fun candidate =>
          decide (UInt8.ofNat ((1 <<< length - 1) <<< offset) ≤ candidate)) =
          table.masks.find? fun candidate =>
            decide (bytes ≤ UInt64.ofNat (ByteMask.count ⟨candidate⟩)) :=
        List.find?_congr agree
      unfold minLength roundUp
      simp only [List.find?_map, found, Function.comp_def]
      cases chosen : table.masks.find? fun candidate =>
          decide (bytes ≤ UInt64.ofNat (ByteMask.count ⟨candidate⟩)) with
      | none => rfl
      | some candidate =>
          obtain ⟨count, some, few, rfl⟩ :=
            eq_lowBits_of_isLowMask (valid.low candidate (List.mem_of_find?_eq_some chosen))
          simp only [Option.map_some]
          rw [count_lowBits few, UInt64.toNat_ofNat_of_lt' (show count < 2 ^ 64 by omega),
            ofRun?_zero some few]

/-- The lengths of a table are those of its masks, from one byte to the window. -/
theorem IsValid.toNat_minLength (valid : table.IsValid) (bytes : UInt64) :
    1 ≤ (table.minLength bytes).toNat ∧ (table.minLength bytes).toNat ≤ 8 := by
  unfold minLength
  split
  · next length found =>
      obtain ⟨candidate, member, rfl⟩ := List.mem_map.mp (List.mem_of_find?_eq_some found)
      obtain ⟨count, some, few, rfl⟩ := eq_lowBits_of_isLowMask (valid.low candidate member)
      rw [count_lowBits few, UInt64.toNat_ofNat_of_lt' (show count < 2 ^ 64 by omega)]
      exact ⟨some, few⟩
  · decide

theorem minLength_window (valid : table.IsValid) : table.minLength 8 = 8 := by
  unfold minLength
  split
  · next length found =>
      obtain ⟨candidate, member, rfl⟩ := List.mem_map.mp (List.mem_of_find?_eq_some found)
      have reaches : 8 ≤ UInt64.ofNat (ByteMask.count ⟨candidate⟩) := by
        simpa using List.find?_some found
      obtain ⟨count, some, few, rfl⟩ := eq_lowBits_of_isLowMask (valid.low candidate member)
      rw [count_lowBits few, UInt64.le_iff_toNat_le,
        UInt64.toNat_ofNat_of_lt' (show count < 2 ^ 64 by omega)] at reaches
      have all : count = 8 := by
        have eight : (8 : UInt64).toNat = 8 := rfl
        omega
      rw [count_lowBits few, all]
      rfl
  · rfl

theorem roundUp_of_contains (valid : table.IsValid) {mask : ByteMask}
    (there : table.contains mask = true) : table.roundUp mask = mask := by
  obtain ⟨bits⟩ := mask
  have member : bits ∈ table.masks := by simpa [contains] using there
  have first : table.masks.find? (fun candidate => decide (bits ≤ candidate)) = some bits := by
    have sorted := valid.sorted
    revert member sorted
    generalize table.masks = masks
    intro member sorted
    induction masks with
    | nil => cases member
    | cons mask rest ih =>
        obtain ⟨least, later⟩ := List.pairwise_cons.mp sorted
        rcases List.mem_cons.mp member with rfl | further
        · simp
        · have above : ¬bits ≤ mask := UInt8.not_le.mpr (least bits further)
          rw [List.find?_cons_of_neg (by simpa using above)]
          exact ih further later
  unfold roundUp
  dsimp only
  rw [first]

theorem IsValid.contains_full (valid : table.IsValid) : table.contains .full = true := by
  obtain ⟨masks, built⟩ := valid
  unfold ofMasks at built
  dsimp only at built
  split at built
  · cases built
  · split at built
    · next last =>
        cases built
        have member : (0xff : UInt8) ∈ sortMasks masks := List.mem_of_getLast? last
        simpa [contains, ByteMask.full] using member
    · cases built

theorem IsValid.contains_roundUp (valid : table.IsValid) (mask : ByteMask) :
    table.contains (table.roundUp mask) = true := by
  unfold roundUp
  split
  · next candidate found => simpa [contains] using List.mem_of_find?_eq_some found
  · exact valid.contains_full

/-- Against a low mask the order of numbers is the order of inclusion. -/
theorem isWithin_lowBits_iff {mask : ByteMask} {count : Nat} (few : count ≤ 8) :
    mask.IsWithin ⟨lowBits count⟩ ↔ mask.bits ≤ lowBits count := by
  have value := toNat_lowBits few
  have below : mask.bits ≤ lowBits count ↔ mask.bits.toNat < 2 ^ count := by
    have positive := Nat.two_pow_pos count
    rw [UInt8.le_iff_toNat_le, value]
    omega
  have selected : ∀ byte, (ByteMask.mk (lowBits count)).selects byte = decide (byte < count) := by
    intro byte
    unfold ByteMask.selects
    rw [value, Nat.testBit_two_pow_sub_one]
  rw [below]
  constructor
  · intro within
    refine Nat.lt_pow_two_of_testBit _ fun byte past => ?_
    rw [← Bool.not_eq_true]
    intro set
    have inside := within byte set
    rw [selected, decide_eq_true_eq] at inside
    omega
  · intro small byte set
    rw [selected, decide_eq_true_eq, ← Nat.pow_lt_pow_iff_right (show 1 < 2 by decide)]
    exact Nat.lt_of_le_of_lt (Nat.ge_two_pow_of_testBit set) small

/-- Rounding up loses no byte. -/
theorem isWithin_roundUp (valid : table.IsValid) (mask : ByteMask) :
    mask.IsWithin (table.roundUp mask) := by
  unfold roundUp
  split
  · next candidate found =>
      obtain ⟨count, _, few, rfl⟩ :=
        eq_lowBits_of_isLowMask (valid.low candidate (List.mem_of_find?_eq_some found))
      exact (isWithin_lowBits_iff few).mpr (by simpa using List.find?_some found)
  · refine (isWithin_lowBits_iff (Nat.le_refl 8)).mpr ?_
    rw [UInt8.le_iff_toNat_le]
    exact Nat.le_of_lt_succ mask.bits.toNat_lt

theorem restrict_of_bytes (valid : table.IsValid) {point : EncodedPoint} {mask : ByteMask}
    (masked : point.span = .bytes mask) :
    table.restrict point = { point with span := .bytes (table.roundUp mask) } := by
  unfold restrict
  rw [masked]
  dsimp only
  split
  · next there =>
      rw [roundUp_of_contains valid there, ← masked]
  · rfl

/-- A restricted point has a mask of the table, so it stays as it is. -/
theorem restrict_restrict (valid : table.IsValid) (point : EncodedPoint) :
    table.restrict (table.restrict point) = table.restrict point := by
  cases spans : point.span with
  | bytes mask =>
      rw [restrict_of_bytes valid spans, restrict_of_bytes valid rfl,
        roundUp_of_contains valid (valid.contains_roundUp mask)]
  | exact | range | masked => simp [restrict, spans]

theorem restrict_with_comparator (table : MaskTable) (point : EncodedPoint)
    (comparator : Option Comparator) :
    table.restrict { point with comparator } = { table.restrict point with comparator } := by
  obtain ⟨kind, address, span, before, watched, registers⟩ := point
  cases span with
  | bytes mask =>
      unfold restrict
      dsimp only
      split <;> rfl
  | exact | range | masked => rfl

theorem restrict_eq (table : MaskTable) (point : EncodedPoint) :
    ∃ span, table.restrict point = { point with span } := by
  unfold restrict
  split
  · split
    · exact ⟨point.span, rfl⟩
    · exact ⟨_, rfl⟩
  · exact ⟨point.span, rfl⟩

end MaskTable

end DebugRegisters
