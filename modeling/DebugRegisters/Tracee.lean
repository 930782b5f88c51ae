/-!
# The traced process

Thread numbers and the processor architectures whose debug registers are
managed. The architecture decides which kernel interface is expected and how
instruction breakpoints are aligned.
-/

set_option autoImplicit false

namespace DebugRegisters

structure ThreadId where
  number : Int
  deriving DecidableEq, Repr, Inhabited

instance : ToString ThreadId := ⟨fun thread => toString thread.number⟩

inductive Architecture where
  /-- A 64-bit ARM process. -/
  | aarch64
  /-- A 32-bit ARM process on a 64-bit kernel. -/
  | aarch32
  /-- Server PowerPC. -/
  | powerpc
  /-- Embedded PowerPC with the BookE debug facility. -/
  | powerpcBookE
  deriving DecidableEq, Repr

namespace Architecture

def isArm : Architecture → Bool
  | .aarch64 | .aarch32 => true
  | .powerpc | .powerpcBookE => false

def isPowerPC : Architecture → Bool
  | .powerpc | .powerpcBookE => true
  | .aarch64 | .aarch32 => false

def isBookE : Architecture → Bool
  | .powerpcBookE => true
  | _ => false

/-- The alignment a hardware breakpoint address needs: Thumb code starts at any
halfword, all other code at words. -/
def breakpointAlignment : Architecture → UInt64
  | .aarch32 => 2
  | _ => 4

def name : Architecture → String
  | .aarch64 => "aarch64"
  | .aarch32 => "aarch32"
  | .powerpc => "powerpc"
  | .powerpcBookE => "powerpc-booke"

instance : ToString Architecture := ⟨name⟩

end Architecture

end DebugRegisters
