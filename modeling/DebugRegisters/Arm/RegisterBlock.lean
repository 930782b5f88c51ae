import DebugRegisters.Arm.ControlWord

/-!
# Register blocks

The contents of one bank, as they go to and come from the kernel in one piece:
a pair of address and control word for every slot.
-/

set_option autoImplicit false

namespace DebugRegisters.Arm

structure RegisterPair where
  address : UInt64
  control : UInt32
  deriving DecidableEq, Repr, Inhabited

namespace RegisterPair

def disabled : RegisterPair := ⟨0, 0⟩

def isEnabled (pair : RegisterPair) : Bool :=
  ControlWord.isEnabled pair.control

end RegisterPair

/-- A bank's pairs. `info` is the bank's information word on a read and is
ignored on a write. -/
structure RegisterBlock where
  info : UInt32
  pairs : List RegisterPair
  deriving DecidableEq, Repr

namespace RegisterBlock

def empty : RegisterBlock := ⟨0, []⟩

def disabled (count : Nat) : RegisterBlock :=
  ⟨0, List.replicate count .disabled⟩

def enabled (block : RegisterBlock) : List (Nat × RegisterPair) :=
  (block.pairs.zipIdx.map fun (pair, index) => (index, pair)).filter fun (_, pair) => pair.isEnabled

end RegisterBlock

end DebugRegisters.Arm
