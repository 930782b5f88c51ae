import DebugRegisters.Point

/-!
# The single PowerPC data breakpoint register

The older interface has one data breakpoint register. Its low bits say which
accesses trap; server processors set one bit more, for virtual addresses.
-/

set_option autoImplicit false

namespace DebugRegisters.Power

structure AccessFlags where
  read : UInt64
  write : UInt64
  deriving DecidableEq, Repr

def AccessFlags.ofProcessor (isBookE : Bool) : AccessFlags :=
  if isBookE then ⟨1, 2⟩ else ⟨5, 6⟩

/-- The register's contents for a watch of `kind` at `address`. -/
def dataBreakpointValue (address : Address) (kind : PointKind) (isBookE : Bool) : UInt64 :=
  let flags := AccessFlags.ofProcessor isBookE
  let base := address.value &&& ~~~(flags.read ||| flags.write)
  match kind with
  | .read => base ||| flags.read
  | .write => base ||| flags.write
  | .access => base ||| flags.read ||| flags.write
  | .execute => base

end DebugRegisters.Power
