import DebugRegisters.Point

/-!
# Data value comparators

A comparator looks at the aligned window of its own width around the watched
address. Of the operand's bytes only those in that window take part, and a
comparator's bytes are numbered from the right: the highest address of the
window is byte zero.
-/

set_option autoImplicit false

namespace DebugRegisters.Power

def maxComparatorBytes : Nat := 8

/-- The comparator for `length` bytes at `address` to equal `value`, where the
comparator is `width` bytes wide. Bytes of the operand past the window are
shifted out of the value. The end of the window and the shifts are natural numbers
here; the result is meant only where they are below `2 ^ 64`, as 64-bit sums overflow
past that. -/
def comparatorFor (address : Address) (length value width : UInt64) : Comparator :=
  let width := max width.toNat 1
  let operandStop := min (address.toNat + length.toNat) 0xffffffffffffffff
  let windowStop := address.toNat - address.toNat % width + width
  let beyond := operandStop - windowStop
  let rightmost := windowStop - operandStop
  let enabled := length.toNat - beyond
  { byteEnables := (List.range 8).foldl
      (fun enables byte =>
        if rightmost ≤ byte ∧ byte < rightmost + enabled then enables ||| (1 <<< UInt8.ofNat byte)
        else enables) 0
    value := Word.shiftLeft (Word.shiftRight value (beyond * 8)) (rightmost * 8) }

end DebugRegisters.Power
