/-!
# Machine words

Operations on 64-bit words that stop at the ends of their range, and shifts by
any number of bits. Each has a lemma that gives its value as a natural number.
-/

set_option autoImplicit false

namespace DebugRegisters.Word

def saturatingAdd (left right : UInt64) : UInt64 :=
  if left.toNat + right.toNat ≤ 0xffffffffffffffff then left + right else 0xffffffffffffffff

def saturatingMul (left right : UInt64) : UInt64 :=
  if left.toNat * right.toNat ≤ 0xffffffffffffffff then left * right else 0xffffffffffffffff

/-- Moves the bits towards the low end. Nothing is left after 64 places. -/
def shiftRight (word : UInt64) (places : Nat) : UInt64 :=
  if places < 64 then word >>> UInt64.ofNat places else 0

/-- Moves the bits towards the high end. Nothing is left after 64 places. -/
def shiftLeft (word : UInt64) (places : Nat) : UInt64 :=
  if places < 64 then word <<< UInt64.ofNat places else 0

def lowBits (count : Nat) : UInt64 :=
  if count < 64 then UInt64.ofNat (1 <<< count - 1) else 0xffffffffffffffff

theorem toNat_saturatingAdd (left right : UInt64) :
    (saturatingAdd left right).toNat = min (left.toNat + right.toNat) 0xffffffffffffffff := by
  unfold saturatingAdd
  split
  · next fits =>
      rw [UInt64.toNat_add, Nat.mod_eq_of_lt (Nat.lt_succ_of_le fits)]
      omega
  · next exceeds =>
      exact (Nat.min_eq_right (Nat.le_of_not_le exceeds)).symm

theorem toNat_saturatingMul (left right : UInt64) :
    (saturatingMul left right).toNat = min (left.toNat * right.toNat) 0xffffffffffffffff := by
  unfold saturatingMul
  split
  · next fits =>
      rw [UInt64.toNat_mul, Nat.mod_eq_of_lt (Nat.lt_succ_of_le fits)]
      omega
  · next exceeds =>
      exact (Nat.min_eq_right (Nat.le_of_not_le exceeds)).symm

end DebugRegisters.Word
