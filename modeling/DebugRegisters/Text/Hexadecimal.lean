/-!
# Hexadecimal text

Lower-case hexadecimal text of natural numbers, plain or filled with zeros on
the left to a least width. Both forms carry the `0x` mark.
-/

set_option autoImplicit false

namespace DebugRegisters.Hexadecimal

/-- The digits of `value`, most significant first. Zero has the one digit `0`. -/
def digits (value : Nat) : List Char :=
  Nat.toDigits 16 value

/-- `0x` and the digits without leading zeros. -/
def text (value : Nat) : String :=
  String.ofList ('0' :: 'x' :: digits value)

/-- `0x` and at least `width` digits. -/
def padded (width value : Nat) : String :=
  let shown := digits value
  String.ofList ('0' :: 'x' :: (List.replicate (width - shown.length) '0' ++ shown))

end DebugRegisters.Hexadecimal
