import DebugRegisters.Arm.RegisterBlock
import DebugRegisters.Power.HardwareReply
import DebugRegisters.Tracee

/-!
# The kernel interface

Everything that a session asks of an operating system, as a class over a type
of kernel states. A call always gives a state back, also when it fails, because
a failed call may have been counted or may have changed something.

Two styles of kernel stand behind the class. Kernels with register arrays
exchange whole banks; kernels with handles register points one by one. Which
calls are used is settled once, when the capabilities are probed.
-/

set_option autoImplicit false

namespace DebugRegisters

structure SlotHandle where
  number : Int
  deriving DecidableEq, Repr

instance : ToString SlotHandle := ⟨fun handle => s!"#{handle.number}"⟩

/-- Why a kernel call failed, as far as the reactions to it differ. -/
inductive KernelError where
  /-- The kernel has no such interface. -/
  | notSupported
  /-- The kernel refused the encoding. -/
  | rejected
  /-- The kernel knows no registration under the handle. -/
  | notFound
  /-- The thread is gone. -/
  | noSuchThread
  /-- Any other error number. -/
  | os (number : Int)
  deriving DecidableEq, Repr

namespace KernelError

def noSpace : KernelError := .os 28

/-- The meaning of the error number that a call left behind: EINVAL (22),
ENOENT (2), ESRCH (3), and EIO (5), ENODEV (19), EOPNOTSUPP (95). -/
def ofErrorNumber (number : Int) : KernelError :=
  if number = 22 then .rejected
  else if number = 2 then .notFound
  else if number = 3 then .noSuchThread
  else if number = 5 ∨ number = 19 ∨ number = 95 then .notSupported
  else .os number

def message : KernelError → String
  | .notSupported => "debug register interface not supported by the kernel"
  | .rejected => "kernel rejected the debug register encoding"
  | .notFound => "kernel has no registration for this slot"
  | .noSuchThread => "thread no longer exists"
  | .os number => s!"ptrace failed with errno {number}"

instance : ToString KernelError := ⟨message⟩

end KernelError

inductive KernelCall where
  | debugInfo
  | readRegisters
  | writeRegisters
  | register
  | deregister
  | writeLegacy
  | lastTrap
  | pause
  deriving DecidableEq, Repr

namespace KernelCall

def name : KernelCall → String
  | .debugInfo => "debug_info"
  | .readRegisters => "read_debug_registers"
  | .writeRegisters => "write_debug_registers"
  | .register => "register_point"
  | .deregister => "deregister_point"
  | .writeLegacy => "write_legacy_register"
  | .lastTrap => "last_trap"
  | .pause => "pause_for_update"

instance : ToString KernelCall := ⟨name⟩

end KernelCall

inductive DebugInfo where
  /-- The information words of the two banks; a word is missing where the
  kernel could not be asked for it. -/
  | arm (breakpoints watchpoints : Option UInt32)
  | power (reply : Power.HardwareReply)
  deriving DecidableEq, Repr

structure Trap where
  /-- The stop comes from a debug register. -/
  isHardware : Bool
  /-- The data address that was touched. -/
  address : Address
  /-- The number of the registration that triggered, where the kernel gives it. -/
  slotHint : Option Int
  deriving DecidableEq, Repr

/-- What a kernel call leaves: its answer and the kernel after it. -/
abbrev Reply (κ α : Type) := Except KernelError α × κ

class Kernel (κ : Type) where
  architecture : κ → Architecture
  debugInfo : κ → ThreadId → Reply κ DebugInfo
  readRegisters : κ → ThreadId → RegisterBank → Reply κ Arm.RegisterBlock
  writeRegisters : κ → ThreadId → RegisterBank → Arm.RegisterBlock → Reply κ Unit
  /-- Registers a point and answers its handle. -/
  register : κ → ThreadId → EncodedPoint → Reply κ SlotHandle
  deregister : κ → ThreadId → SlotHandle → Reply κ Unit
  /-- Sets the single data breakpoint register. Zero clears it. -/
  writeLegacy : κ → ThreadId → UInt64 → Reply κ Unit
  lastTrap : κ → ThreadId → Reply κ (Option Trap)
  /-- Stops a thread so that its registers can be changed. There is nothing to
  do on kernels whose traced threads are stopped anyway. -/
  pause : κ → ThreadId → Reply κ Unit := fun kernel _ => (.ok (), kernel)

end DebugRegisters
