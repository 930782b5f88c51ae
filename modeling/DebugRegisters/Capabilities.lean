import DebugRegisters.Arm.InfoWord
import DebugRegisters.Features
import DebugRegisters.Power.HardwareReply
import DebugRegisters.Tracee

/-!
# Capabilities

What the debug registers of a session can do: how many there are, how they are
driven, and how wide a window one of them covers. The set is found once and
never changes.
-/

set_option autoImplicit false

namespace DebugRegisters

inductive Interface where
  /-- Whole banks are written when a thread resumes. -/
  | registerArray
  /-- Points are registered one by one and known by handles. -/
  | handles
  /-- There is one data breakpoint register. -/
  | legacy
  /-- There are no debug registers to use. -/
  | unavailable
  deriving DecidableEq, Repr

namespace Interface

def name : Interface → String
  | .registerArray => "register-array"
  | .handles => "hwdebug-handles"
  | .legacy => "legacy-dabr"
  | .unavailable => "unavailable"

instance : ToString Interface := ⟨name⟩

end Interface

structure Capabilities where
  architecture : Architecture
  interface : Interface
  breakpointSlots : Nat
  watchpointSlots : Nat
  /-- Number of data value comparators. -/
  comparators : Nat
  /-- Width of a comparator in bytes. -/
  comparatorWidth : UInt64
  /-- Size and alignment of the window of one watchpoint. -/
  alignment : UInt64
  /-- The most bytes that one watchpoint covers without a range. -/
  maxWatchLength : UInt64
  /-- The window that a range must not leave, if there is one. -/
  rangeWindow : Option UInt64
  features : Features
  deriving DecidableEq, Repr

namespace Capabilities

def unavailable (architecture : Architecture) : Capabilities where
  architecture
  interface := .unavailable
  breakpointSlots := 0
  watchpointSlots := 0
  comparators := 0
  comparatorWidth := 0
  alignment := 8
  maxWatchLength := 8
  rangeWindow := none
  features := .empty

def ofInfoWords (architecture : Architecture) (breakpoints watchpoints : Option UInt32) :
    Capabilities where
  architecture
  interface := .registerArray
  breakpointSlots := (Arm.BankReading.ofWord breakpoints).slots
  watchpointSlots := (Arm.BankReading.ofWord watchpoints).slots
  comparators := 0
  comparatorWidth := 0
  alignment := Arm.watchWindow
  maxWatchLength := Arm.watchWindow
  rangeWindow := none
  features := .byteSelect

/-- The window that a range on wide-window hardware must not leave. -/
def wideWindowSize : UInt64 := 512

/-- Handles, as a reply describes them. A reply without any feature comes from
an interface that is there and of no use. -/
def ofReply? (architecture : Architecture) (reply : Power.HardwareReply) : Option Capabilities :=
  if reply.features = 0 then none
  else
    let features := Features.ofBits reply.features
    let window := if reply.dataAlignment = 0 then 8 else reply.dataAlignment.toUInt64
    let width := reply.comparatorWidth.toUInt64
    some
      { architecture
        interface := .handles
        breakpointSlots := reply.instructionPoints.toNat
        watchpointSlots := reply.dataPoints.toNat
        comparators := reply.comparators.toNat
        comparatorWidth := if width ≤ 8 then width else 8
        alignment := window
        maxWatchLength := window
        rangeWindow := if features.contains .wideWindow then some wideWindowSize else none
        features }

def legacy (architecture : Architecture) : Capabilities :=
  let window := if architecture.isBookE then 4 else 8
  { architecture
    interface := .legacy
    breakpointSlots := 0
    watchpointSlots := 1
    comparators := 0
    comparatorWidth := 0
    alignment := window
    maxWatchLength := window
    rangeWindow := none
    features := .empty }

def slots (caps : Capabilities) : RegisterBank → Nat
  | .breakpoints => caps.breakpointSlots
  | .watchpoints => caps.watchpointSlots

def has (caps : Capabilities) (features : Features) : Bool :=
  caps.features.contains features

/-- Whether a watch of `length` bytes is registered as one range, and not cut
into windows. -/
def usesRanges (caps : Capabilities) (length : UInt64) : Bool :=
  caps.interface == .handles && 1 < length && caps.has .dataRange

def text (caps : Capabilities) : String :=
  s!"{caps.architecture} via {caps.interface}: {caps.breakpointSlots} breakpoints, " ++
    s!"{caps.watchpointSlots} watchpoints, {caps.comparators} condition registers, " ++
    s!"{caps.alignment}-byte windows, features {caps.features}"

instance : ToString Capabilities := ⟨text⟩

end Capabilities

end DebugRegisters
