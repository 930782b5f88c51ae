import Mathlib.Data.Nat.Bitwise
import DebugRegisters.Condition.Acceleration

/-!
# What a comparator compares

The operand is big-endian: its most significant byte stands at its lowest
address. The window of a comparator is numbered from the other end, so the byte
of the window with the highest address is byte zero. A comparator made for an
operand enables the bytes that the operand and the window share, each of them
with the byte that the operand has at that address.
-/

set_option autoImplicit false

namespace DebugRegisters

def byteOf (number place : Nat) : Nat :=
  number / 256 ^ place % 256

def storedByte (number length offset : Nat) : Nat :=
  byteOf number (length - 1 - offset)

def readBigEndian (memory : Nat → UInt8) (start : Nat) : Nat → Nat
  | 0 => 0
  | length + 1 => readBigEndian memory start length * 256 + (memory (start + length)).toNat

/-- The address of byte `place` of the window around `address`. -/
def windowByte (address width place : Nat) : Nat :=
  address - address % width + (width - 1 - place)

namespace Comparator

def Enables (comparator : Comparator) (place : Nat) : Prop :=
  comparator.byteEnables.toNat.testBit place = true

def Matches (comparator : Comparator) (memory : Nat → UInt8) (address width : Nat) : Prop :=
  ∀ place, comparator.Enables place →
    (memory (windowByte address width place)).toNat = byteOf comparator.value.toNat place

end Comparator

theorem byteOf_succ (number place : Nat) : byteOf number (place + 1) = byteOf (number / 256) place := by
  unfold byteOf
  rw [Nat.pow_succ', Nat.div_div_eq_div_mul]

/-- Bytes are groups of eight bits. -/
theorem testBit_byteOf (number place bit : Nat) :
    (byteOf number place).testBit bit = (decide (bit < 8) && number.testBit (8 * place + bit)) := by
  have byte : byteOf number place = number / 2 ^ (8 * place) % 2 ^ 8 := by
    unfold byteOf
    rw [Nat.pow_mul]
    rfl
  rw [byte, Nat.testBit_mod_two_pow, Nat.testBit_div_two_pow]
  congr 2
  omega

/-- Memory that reads as a number has the number's bytes. -/
theorem memory_of_readBigEndian {memory : Nat → UInt8} {start length number : Nat}
    (reads : readBigEndian memory start length = number % 256 ^ length) {offset : Nat}
    (inside : offset < length) :
    (memory (start + offset)).toNat = storedByte number length offset := by
  induction length generalizing number with
  | zero => cases inside
  | succ length ih =>
      have byte := (memory (start + length)).toNat_lt
      rw [readBigEndian, Nat.pow_succ', Nat.mod_mul] at reads
      rcases Nat.lt_succ_iff_lt_or_eq.mp inside with earlier | rfl
      · have higher : readBigEndian memory start length = number / 256 % 256 ^ length := by
          omega
        rw [ih higher earlier]
        unfold storedByte
        rw [← byteOf_succ]
        congr 1
        omega
      · simp only [storedByte, byteOf, Nat.add_sub_cancel, Nat.sub_self, Nat.pow_zero, Nat.div_one]
        omega

namespace Power

/-- The operand has one to eight bytes, so has the comparator, and from the
address on there is room for both. -/
structure Comparable (address : Address) (length width : UInt64) : Prop where
  operand : 1 ≤ length.toNat ∧ length.toNat ≤ 8
  comparator : 1 ≤ width.toNat ∧ width.toNat ≤ 8
  room : address.toNat + max length.toNat width.toNat < 2 ^ 64

/-- The first `count` bits of a byte, those chosen by `holds` set. -/
theorem testBit_foldl_range {holds : Nat → Prop} [DecidablePred holds] {count : Nat}
    (byte : count ≤ 8) (place : Nat) :
    ((List.range count).foldl (fun enables bit =>
        if holds bit then enables ||| ((1 : UInt8) <<< UInt8.ofNat bit) else enables) 0).toNat.testBit place =
      decide (place < count ∧ holds place) := by
  have single : ∀ bit < 8, ((1 : UInt8) <<< UInt8.ofNat bit).toNat = 2 ^ bit := by decide
  induction count with
  | zero => simp
  | succ count ih =>
      rw [List.range_succ, List.foldl_append, List.foldl_cons, List.foldl_nil]
      split
      · next chosen =>
          rw [UInt8.toNat_or, Nat.testBit_or, ih (by omega), single count (by omega),
            Nat.testBit_two_pow]
          by_cases here : count = place
          · subst here
            simp [chosen]
          · have further : place < count + 1 ↔ place < count := by omega
            simp [here, further]
      · next passed =>
          rw [ih (by omega)]
          by_cases here : count = place
          · subst here
            simp [passed]
          · have further : place < count + 1 ↔ place < count := by omega
            simp [further]

/-- Moving a word down by whole bytes and then up by whole bytes moves its
bytes, as long as they stay within the word. -/
theorem byteOf_shiftLeft_shiftRight (value : UInt64) {down up place : Nat} (less : down < 8)
    (from_up : up ≤ place) (word : place < 8) :
    byteOf (Word.shiftLeft (Word.shiftRight value (down * 8)) (up * 8)).toNat place =
      byteOf value.toNat (place - up + down) := by
  have below : down * 8 % 2 ^ 64 = down * 8 := Nat.mod_eq_of_lt (by omega)
  have above : up * 8 % 2 ^ 64 = up * 8 := Nat.mod_eq_of_lt (by omega)
  unfold Word.shiftLeft Word.shiftRight
  rw [if_pos (by omega : down * 8 < 64), if_pos (by omega : up * 8 < 64)]
  apply Nat.eq_of_testBit_eq
  intro bit
  rw [testBit_byteOf, testBit_byteOf]
  by_cases inByte : bit < 8
  · rw [UInt64.toNat_shiftLeft, UInt64.toNat_shiftRight, UInt64.toNat_ofNat', UInt64.toNat_ofNat',
      below, above, Nat.mod_eq_of_lt (by omega : down * 8 < 64), Nat.mod_eq_of_lt (by omega : up * 8 < 64),
      Nat.testBit_mod_two_pow, Nat.testBit_shiftLeft, Nat.testBit_shiftRight]
    have within : 8 * place + bit < 64 := by omega
    have reached : up * 8 ≤ 8 * place + bit := by omega
    have moved : down * 8 + (8 * place + bit - up * 8) = 8 * (place - up + down) + bit := by omega
    simp [within, reached, moved]
  · simp [inByte]

variable {address : Address} {length value width : UInt64}

theorem comparatorFor_enables (comparable : Comparable address length width) (place : Nat) :
    (comparatorFor address length value width).Enables place ↔
      place < width.toNat ∧ address.toNat ≤ windowByte address.toNat width.toNat place ∧
        windowByte address.toNat width.toNat place < address.toNat + length.toNat := by
  obtain ⟨operand, window, room⟩ := comparable
  have offset : address.toNat % width.toNat < width.toNat := Nat.mod_lt _ window.1
  have down : address.toNat % width.toNat ≤ address.toNat := Nat.mod_le _ _
  unfold Comparator.Enables comparatorFor windowByte
  simp only [testBit_foldl_range (Nat.le_refl 8), decide_eq_true_eq, Nat.max_eq_left window.1]
  generalize address.toNat % width.toNat = skipped at offset down
  omega

theorem comparatorFor_stores (comparable : Comparable address length width) {place : Nat}
    (enabled : (comparatorFor address length value width).Enables place) :
    byteOf (comparatorFor address length value width).value.toNat place =
      storedByte value.toNat length.toNat
        (windowByte address.toNat width.toNat place - address.toNat) := by
  have shared := (comparatorFor_enables comparable place).mp enabled
  obtain ⟨operand, window, room⟩ := comparable
  have offset : address.toNat % width.toNat < width.toNat := Nat.mod_lt _ window.1
  have down : address.toNat % width.toNat ≤ address.toNat := Nat.mod_le _ _
  unfold windowByte at shared ⊢
  simp only [comparatorFor, storedByte, Nat.max_eq_left window.1]
  generalize address.toNat % width.toNat = skipped at offset down shared
  rw [byteOf_shiftLeft_shiftRight value (by omega) (by omega) (by omega)]
  congr 1
  omega

theorem comparatorFor_matches (comparable : Comparable address length width)
    {memory : Nat → UInt8}
    (equal : readBigEndian memory address.toNat length.toNat = value.toNat % 256 ^ length.toNat) :
    (comparatorFor address length value width).Matches memory address.toNat width.toNat := by
  intro place enabled
  obtain ⟨-, start, stop⟩ := (comparatorFor_enables comparable place).mp enabled
  have offset : windowByte address.toNat width.toNat place - address.toNat < length.toNat := by
    omega
  rw [comparatorFor_stores comparable enabled, ← memory_of_readBigEndian equal offset,
    Nat.add_sub_cancel' start]

/-- A comparator looks at the bytes that the operand and the comparator's
window share, and wants in each the byte that the operand has there. So it
matches whenever the operand in memory equals the constant, and a condition that
is left to the hardware is left to such a comparator. -/
theorem comparator_holds_operand (address : Address) (length value width : UInt64)
    (comparable : Comparable address length width) :
    (∀ place, (comparatorFor address length value width).Enables place ↔
      place < width.toNat ∧ address.toNat ≤ windowByte address.toNat width.toNat place ∧
        windowByte address.toNat width.toNat place < address.toNat + length.toNat) ∧
    (∀ place, (comparatorFor address length value width).Enables place →
      byteOf (comparatorFor address length value width).value.toNat place =
        storedByte value.toNat length.toNat
          (windowByte address.toNat width.toNat place - address.toNat)) ∧
    (∀ memory : Nat → UInt8,
      readBigEndian memory address.toNat length.toNat = value.toNat % 256 ^ length.toNat →
        (comparatorFor address length value width).Matches memory address.toNat width.toNat) ∧
    ∀ condition : Condition, condition.constantComparison? address = some ⟨value, length⟩ →
      condition.comparator? address width = some (comparatorFor address length value width) := by
  refine ⟨?_, ?_, ?_, ?_⟩
  · exact fun place => comparatorFor_enables comparable place
  · exact fun place enabled => comparatorFor_stores comparable enabled
  · exact fun memory equal => comparatorFor_matches comparable equal
  · intro condition compared
    have wide : width ≠ 0 := by
      rintro rfl
      exact absurd comparable.comparator.1 (by decide)
    simp [Condition.comparator?, wide, compared]

/-- Two of the four bytes at 0x1006 are in the window of eight bytes. -/
theorem comparator_holds_first_half :
    (comparatorFor ⟨0x1006⟩ 4 0x11223344 8).Enables 1 ∧
      byteOf (comparatorFor ⟨0x1006⟩ 4 0x11223344 8).value.toNat 1 = 0x11 ∧
      ¬ (comparatorFor ⟨0x1006⟩ 4 0x11223344 8).Enables 2 ∧
      (∀ memory : Nat → UInt8, readBigEndian memory 0x1006 4 = 0x11223344 →
        (comparatorFor ⟨0x1006⟩ 4 0x11223344 8).Matches memory 0x1006 8) ∧
      (Condition.memoryEquals ⟨0x1006⟩ 4 0x11223344).comparator? ⟨0x1006⟩ 8 =
        some (comparatorFor ⟨0x1006⟩ 4 0x11223344 8) := by
  obtain ⟨enables, stores, holds, left⟩ :=
    comparator_holds_operand ⟨0x1006⟩ 4 0x11223344 8 ⟨by decide, by decide, by decide⟩
  have enabled := (enables 1).mpr (by decide)
  refine ⟨enabled, ?_, ?_, ?_, ?_⟩
  · exact (stores 1 enabled).trans (by decide)
  · exact fun outside => absurd ((enables 2).mp outside) (by decide)
  · exact fun memory equal => holds memory equal
  · exact left _ (by decide)

end Power

end DebugRegisters
