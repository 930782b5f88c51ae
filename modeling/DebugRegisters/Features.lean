import DebugRegisters.Text.Hexadecimal

/-!
# Optional features

The optional features of debug hardware, as a set of bits. The low bits are
those of a PowerPC reply; a bit further up stands for byte masks. Bits without a
meaning are dropped when a set is built.
-/

set_option autoImplicit false

namespace DebugRegisters

structure Features where
  bits : UInt64
  deriving DecidableEq, Repr

namespace Features

def empty : Features := ⟨0⟩

def instructionRange : Features := ⟨0x1⟩

def instructionMask : Features := ⟨0x2⟩

def dataRange : Features := ⟨0x4⟩

def dataMask : Features := ⟨0x8⟩

/-- A range must stay inside one wide window. -/
def wideWindow : Features := ⟨0x10⟩

/-- The bytes of a window can be selected one by one. -/
def byteSelect : Features := ⟨0x100000000⟩

def named : List (String × Features) :=
  [("INSN_RANGE", instructionRange), ("INSN_MASK", instructionMask), ("DATA_RANGE", dataRange),
    ("DATA_MASK", dataMask), ("DATA_DAWR", wideWindow), ("BYTE_SELECT", byteSelect)]

def known : UInt64 := 0x10000001f

def ofBits (bits : UInt64) : Features :=
  ⟨bits &&& known⟩

def contains (features other : Features) : Bool :=
  features.bits &&& other.bits == other.bits

def text (features : Features) : String :=
  let names := (named.filter fun (_, feature) => features.contains feature).map Prod.fst
  if names.isEmpty then "Features(" ++ Hexadecimal.text 0 ++ ")"
  else "Features(" ++ " | ".intercalate names ++ ")"

instance : ToString Features := ⟨text⟩

end Features

end DebugRegisters
