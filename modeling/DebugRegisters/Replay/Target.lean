import DebugRegisters.Kernel.Simulated

/-!
# Targets

The simulated kernels that a replay can run against.
-/

set_option autoImplicit false

namespace DebugRegisters.Replay

inductive Target where
  /-- Register arrays with six breakpoints and four watchpoints. -/
  | aarch64
  /-- The same with restricted byte masks. -/
  | aarch64Old
  /-- The same for a 32-bit process. -/
  | arm
  /-- An embedded PowerPC with handles. -/
  | bookE
  /-- A server PowerPC with handles and a wide window. -/
  | server
  /-- A server PowerPC with the single data breakpoint register. -/
  | legacy
  /-- An embedded PowerPC with the single data breakpoint register. -/
  | legacyBookE
  deriving DecidableEq, Repr

namespace Target

def all : List Target :=
  [.aarch64, .aarch64Old, .arm, .bookE, .server, .legacy, .legacyBookE]

def name : Target → String
  | .aarch64 => "aarch64"
  | .aarch64Old => "aarch64-old"
  | .arm => "arm"
  | .bookE => "booke"
  | .server => "server"
  | .legacy => "legacy"
  | .legacyBookE => "legacy-booke"

def label (target : Target) : String :=
  String.ofList (target.name.toList.filter (· ≠ '-'))

def ofName? (name : String) : Option Target :=
  all.find? fun target => target.name = name

def kernel : Target → SimulatedKernel
  | .aarch64 => .withArrays 6 4
  | .aarch64Old => { SimulatedKernel.withArrays 6 4 with maskTable := some .standard }
  | .arm => { SimulatedKernel.withArrays 6 4 with architecture := .aarch32 }
  | .bookE => .embedded
  | .server => .server
  | .legacy => .withLegacyRegister false
  | .legacyBookE => .withLegacyRegister true

end Target

end DebugRegisters.Replay
