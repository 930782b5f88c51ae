import DebugRegisters.Text.Blank
import DebugRegisters.Text.Numeral

/-!
# Numbers

A number is written in decimal, or in hexadecimal after `0x` or `0X`. Blanks
around it do not count, and underscores may stand anywhere after the mark.
-/

set_option autoImplicit false

namespace DebugRegisters.Replay

/-- A text that is not a number: the text without blanks around it, and what is
wrong with its digits. -/
structure NumberError where
  given : String
  cause : NumeralError
  deriving DecidableEq, Repr

def NumberError.message (error : NumberError) : String :=
  s!"invalid number '{error.given}': " ++ error.cause.message

def withoutUnderscores (text : List Char) : List Char :=
  text.filter (· ≠ '_')

def numberValue : List Char → Except NumeralError Nat
  | '0' :: 'x' :: digits | '0' :: 'X' :: digits =>
      Numeral.read 16 0xffffffffffffffff (withoutUnderscores digits)
  | digits => Numeral.read 10 0xffffffffffffffff (withoutUnderscores digits)

def readNumber (text : String) : Except NumberError UInt64 :=
  let trimmed := Text.trim text.toList
  match numberValue trimmed with
  | .ok value => .ok (UInt64.ofNat value)
  | .error cause => .error ⟨String.ofList trimmed, cause⟩

end DebugRegisters.Replay
