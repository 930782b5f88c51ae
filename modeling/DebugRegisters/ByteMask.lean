import DebugRegisters.Text.Hexadecimal

/-!
# Byte masks

Which bytes of an aligned eight-byte window a register pair watches. Bit `n`
selects the byte at offset `n`.
-/

set_option autoImplicit false

namespace DebugRegisters

structure ByteMask where
  bits : UInt8
  deriving DecidableEq, Repr

namespace ByteMask

def full : ByteMask := ⟨0xff⟩

/-- The mask of `length` bytes from `offset`, if there is one: at least one
byte, and none past the window. -/
def ofRun? (offset length : Nat) : Option ByteMask :=
  if length = 0 ∨ 8 < offset + length then none
  else some ⟨UInt8.ofNat ((1 <<< length - 1) <<< offset)⟩

def selects (mask : ByteMask) (byte : Nat) : Bool :=
  mask.bits.toNat.testBit byte

def offset (mask : ByteMask) : Nat :=
  ((List.range 8).find? mask.selects).getD 0

/-- The number of bytes selected without a gap from the first one on. -/
def leadingRun (mask : ByteMask) : Nat :=
  ((List.range (8 - mask.offset)).takeWhile fun byte => mask.selects (mask.offset + byte)).length

/-- The number of selected bytes, when they stand together. -/
def length? (mask : ByteMask) : Option Nat :=
  if mask.bits.toNat >>> (mask.offset + mask.leadingRun) = 0 then some mask.leadingRun else none

def isEmpty (mask : ByteMask) : Bool :=
  mask.bits == 0

def count (mask : ByteMask) : Nat :=
  ((List.range 8).filter mask.selects).length

def text (mask : ByteMask) : String :=
  Hexadecimal.padded 2 mask.bits.toNat

instance : ToString ByteMask := ⟨text⟩

end ByteMask

end DebugRegisters
