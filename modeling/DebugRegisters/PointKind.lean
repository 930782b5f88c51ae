/-!
# Kinds of points

What a hardware point traps on, and the register bank that holds it.
Instruction points and data points never compete for registers.
-/

set_option autoImplicit false

namespace DebugRegisters

inductive RegisterBank where
  | breakpoints
  | watchpoints
  deriving DecidableEq, Repr

namespace RegisterBank

def all : List RegisterBank :=
  [.breakpoints, .watchpoints]

def name : RegisterBank → String
  | .breakpoints => "breakpoints"
  | .watchpoints => "watchpoints"

instance : ToString RegisterBank := ⟨name⟩

end RegisterBank

inductive PointKind where
  /-- Instruction fetch. -/
  | execute
  /-- Data read. -/
  | read
  /-- Data write. -/
  | write
  /-- Data read or write. -/
  | access
  deriving DecidableEq, Repr

namespace PointKind

def isWatchpoint : PointKind → Bool
  | .execute => false
  | _ => true

def bank (kind : PointKind) : RegisterBank :=
  if kind.isWatchpoint then .watchpoints else .breakpoints

def text : PointKind → String
  | .execute => "breakpoint"
  | .read => "read watchpoint"
  | .write => "write watchpoint"
  | .access => "access watchpoint"

instance : ToString PointKind := ⟨text⟩

end PointKind

end DebugRegisters
