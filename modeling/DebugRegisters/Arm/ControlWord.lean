import DebugRegisters.Point

/-!
# AArch64 control words

The word that arms one register pair. From the low end it holds the enable bit,
two bits of privilege, two bits for the kind of access and one bit for every
byte of the window. The bits above are unused.
-/

set_option autoImplicit false

namespace DebugRegisters.Arm

def maxSlots : Nat := 16

def watchWindow : UInt64 := 8

/-- The two bits that name the access; instruction points leave them clear. -/
def accessBits : PointKind → UInt32
  | .execute => 0
  | .read => 1
  | .write => 2
  | .access => 3

namespace ControlWord

def enable : UInt32 := 1

def userPrivilege : UInt32 := 4

def encode (kind : PointKind) (mask : ByteMask) : UInt32 :=
  (mask.bits.toUInt32 <<< 5) ||| (accessBits kind <<< 3) ||| userPrivilege ||| enable

def isEnabled (word : UInt32) : Bool :=
  word &&& enable != 0

def mask (word : UInt32) : ByteMask :=
  ⟨((word >>> 5) &&& 0xff).toUInt8⟩

/-- The kind of point that a control word of the given bank arms. The access
bits of a breakpoint word mean nothing, and a watchpoint word without any of
them has no kind. -/
def kind? (bank : RegisterBank) (word : UInt32) : Option PointKind :=
  match bank with
  | .breakpoints => some .execute
  | .watchpoints =>
      match ((word >>> 3) &&& 3).toNat with
      | 1 => some .read
      | 2 => some .write
      | 3 => some .access
      | _ => none

end ControlWord

/-- The byte mask of a breakpoint on an instruction of `length` bytes. Thumb
instructions, the wide ones included, are matched by their first halfword. -/
def breakpointMask (length : UInt64) : ByteMask :=
  if length = 2 ∨ length = 3 then ⟨0x03⟩ else ⟨0x0f⟩

end DebugRegisters.Arm
