/-!
# Numerals

Unsigned numerals in a radix, with a largest admitted value. A plus sign may
stand in front of the digits. The digits are read from the left, and the first
of them that is not a digit, or that takes the value over the limit, decides
which error is reported.
-/

set_option autoImplicit false

namespace DebugRegisters

inductive NumeralError where
  | empty
  | invalidDigit
  | tooLarge
  deriving DecidableEq, Repr

def NumeralError.message : NumeralError → String
  | .empty => "cannot parse integer from empty string"
  | .invalidDigit => "invalid digit found in string"
  | .tooLarge => "number too large to fit in target type"

namespace Numeral

/-- The value of a digit. Letters of both cases stand for ten and more, and
characters outside ASCII are never digits. -/
def digit? (radix : Nat) (char : Char) : Option Nat :=
  let value? :=
    if '0' ≤ char ∧ char ≤ '9' then some (char.toNat - '0'.toNat)
    else if 'a' ≤ char ∧ char ≤ 'z' then some (char.toNat - 'a'.toNat + 10)
    else if 'A' ≤ char ∧ char ≤ 'Z' then some (char.toNat - 'A'.toNat + 10)
    else none
  value?.filter (· < radix)

/-- Continues a numeral whose digits so far have the given value. -/
def continueFrom (radix limit : Nat) : Nat → List Char → Except NumeralError Nat
  | value, [] => .ok value
  | value, char :: rest =>
      match digit? radix char with
      | none => .error .invalidDigit
      | some digit =>
          if value * radix + digit ≤ limit then
            continueFrom radix limit (value * radix + digit) rest
          else .error .tooLarge

/-- Reads a numeral of at most `limit`. -/
def read (radix limit : Nat) : List Char → Except NumeralError Nat
  | [] => .error .empty
  | ['+'] => .error .invalidDigit
  | '+' :: digits => continueFrom radix limit 0 digits
  | digits => continueFrom radix limit 0 digits

end Numeral

end DebugRegisters
