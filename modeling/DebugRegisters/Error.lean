import DebugRegisters.Kernel
import DebugRegisters.Text.Numeral

/-!
# Errors

The reasons for which a request or a setting is refused. Each reason carries
what its text needs, and the text is made in one place.
-/

set_option autoImplicit false

namespace DebugRegisters

inductive MissingFacility where
  | slots (kind : PointKind) (architecture : Architecture)
  | rangedBreakpoints
  | maskedWatchpoints
  /-- A facility that only the caller knows, described by the caller. -/
  | described (description : String)
  deriving DecidableEq, Repr

def MissingFacility.message : MissingFacility → String
  | .slots kind architecture => s!"no hardware {kind} slots on {architecture}"
  | .rangedBreakpoints => "ranged hardware breakpoints are not available"
  | .maskedWatchpoints => "masked hardware watchpoints are not available"
  | .described description => description

inductive PlacementRule where
  | instructionAligned
  | positiveLength
  | insideWindow
  deriving DecidableEq, Repr

def PlacementRule.message : PlacementRule → String
  | .instructionAligned => "breakpoint address is not instruction aligned"
  | .positiveLength => "watchpoint length must be positive"
  | .insideWindow => "fragment does not fit the byte address select window"

inductive InvalidArgument where
  /-- The mask would also match addresses of the kernel. -/
  | kernelMask (mask : UInt64)
  | instructionLength (length : UInt64) (architecture : Architecture)
  deriving DecidableEq, Repr

def InvalidArgument.message : InvalidArgument → String
  | .kernelMask mask => "mask " ++ Hexadecimal.text mask.toNat ++ " covers kernel address space"
  | .instructionLength length architecture =>
      s!"no {length}-byte instructions on {architecture}"

inductive InvalidSetting where
  /-- An entry of a mask table that is not a number. -/
  | maskText (entry : String) (cause : NumeralError)
  /-- A mask with a gap, or without the first byte of the window. -/
  | maskShape (mask : UInt8)
  | maskTableEnd
  | notBoolean (name given : String)
  deriving DecidableEq, Repr

def InvalidSetting.message : InvalidSetting → String
  | .maskText entry cause => s!"invalid mask '{entry}': " ++ cause.message
  | .maskShape mask =>
      "mask " ++ Hexadecimal.padded 2 mask.toNat ++ " does not select the low bytes of the window"
  | .maskTableEnd => "mask table must end with 0xff"
  | .notBoolean name given => s!"{name}: expected a boolean, got '{given}'"

inductive PointError where
  | unsupported (facility : MissingFacility)
  /-- More registers are needed than there are. -/
  | capacityExceeded (kind : PointKind) (needed available : Nat)
  | misaligned (address : Address) (length : UInt64) (rule : PlacementRule)
  /-- The kernel refuses a bank although its masks are already restricted. -/
  | kernelRejected (thread : ThreadId)
  | pointNotFound (kind : PointKind) (address : Address)
  | kernel (call : KernelCall) (thread : ThreadId) (cause : KernelError)
  | invalidArgument (cause : InvalidArgument)
  | invalidSetting (cause : InvalidSetting)
  deriving DecidableEq, Repr

def PointError.message : PointError → String
  | .unsupported facility => "Unsupported: " ++ facility.message
  | .capacityExceeded kind needed available =>
      s!"No free hardware {kind} slots: need {needed}, {available} available"
  | .misaligned address length rule =>
      s!"Misaligned hardware point at {address} (length {length}): " ++ rule.message
  | .kernelRejected thread =>
      s!"Kernel rejected debug registers for thread {thread} in restricted mode"
  | .pointNotFound kind address => s!"No hardware {kind} installed at {address}"
  | .kernel call thread cause => s!"{call} failed for thread {thread}: {cause}"
  | .invalidArgument cause => "Invalid argument: " ++ cause.message
  | .invalidSetting cause => "Invalid configuration: " ++ cause.message

instance : ToString PointError := ⟨PointError.message⟩

end DebugRegisters
