import DebugRegisters.Arm.ControlWord

/-!
# AArch64 information words

What the kernel says about one bank: the version of the debug architecture in
bits 8 to 15 and the number of register pairs below it.
-/

set_option autoImplicit false

namespace DebugRegisters.Arm

structure InfoWord where
  version : Nat
  slots : Nat
  deriving DecidableEq, Repr

namespace InfoWord

def parse (word : UInt32) : InfoWord :=
  ⟨((word >>> 8) &&& 0xff).toNat, (word &&& 0xff).toNat⟩

/-- The version reported by the first 64-bit processors. -/
def baseVersion : Nat := 6

def knownVersions : List Nat := [baseVersion, 7, 8, 9]

def isKnown (info : InfoWord) : Bool :=
  knownVersions.contains info.version

/-- The word of the base version with the given slot count in its low bits. -/
def ofSlots (slots : UInt32) : UInt32 :=
  (UInt32.ofNat baseVersion <<< 8) ||| slots

end InfoWord

inductive BankReading where
  /-- The kernel gave no word for the bank. -/
  | missing
  /-- The debug architecture is not one of the known ones. -/
  | unknownVersion (version : Nat)
  /-- More pairs are reported than a bank can have. -/
  | excessive (reported : Nat)
  | usable (slots : Nat)
  deriving DecidableEq, Repr

namespace BankReading

def ofWord : Option UInt32 → BankReading
  | none => .missing
  | some word =>
      let info := InfoWord.parse word
      if !info.isKnown then .unknownVersion info.version
      else if maxSlots < info.slots then .excessive info.slots
      else .usable info.slots

def slots : BankReading → Nat
  | .missing | .unknownVersion _ => 0
  | .excessive _ => maxSlots
  | .usable slots => slots

/-- The warning that goes with a reading, for the bank of the given name. -/
def warning? (bank : String) : BankReading → Option String
  | .missing => some s!"Unable to determine the number of hardware {bank} available"
  | .unknownVersion version =>
      some ("Unknown debug architecture " ++ Hexadecimal.text version ++
        s!" for hardware {bank}; disabling them")
  | .excessive reported =>
      some (s!"Unexpected number of hardware {bank} registers reported by ptrace, " ++
        s!"got {reported}, expected {maxSlots}")
  | .usable _ => none

end BankReading

end DebugRegisters.Arm
