/-!
# The PowerPC capability reply

What a PowerPC kernel with handle-based debug registers says about them.
-/

set_option autoImplicit false

namespace DebugRegisters.Power

structure HardwareReply where
  version : UInt32
  /-- Number of instruction breakpoint registers. -/
  instructionPoints : UInt32
  /-- Number of data breakpoint registers. -/
  dataPoints : UInt32
  /-- Number of data value comparators. -/
  comparators : UInt32
  /-- The alignment of a data window in bytes; zero where none is stated. -/
  dataAlignment : UInt32
  /-- The width of a comparator in bytes. -/
  comparatorWidth : UInt32
  /-- One bit for every optional feature. -/
  features : UInt64
  deriving DecidableEq, Repr

end DebugRegisters.Power
