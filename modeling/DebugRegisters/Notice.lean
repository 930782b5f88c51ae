import DebugRegisters.Logging
import DebugRegisters.Restriction
import DebugRegisters.ThreadPoints

/-!
# Notices

What a session reports while it works, besides the results of its calls. Each
notice has a level and a text.
-/

set_option autoImplicit false

namespace DebugRegisters

inductive Notice where
  /-- A bank's information word is not what was expected. -/
  | bankReading (bank : String) (reading : Arm.BankReading)
  | foreignDebugInfo (info : DebugInfo) (architecture : Architecture)
  | queryFailed (thread : ThreadId) (cause : KernelError)
  | capabilities (caps : Capabilities)
  | legacyAbsent (thread : ThreadId) (cause : KernelError)
  | degraded (table : MaskTable)
  | kernelMask (mask : UInt64) (address : Address)
  | inserting (request : PointRequest) (fragments : Nat)
  | removing (kind : PointKind) (address : Address)
  | insertingMasked (kind : PointKind) (address : Address) (mask : UInt64)
  | removingMasked (kind : PointKind) (address : Address) (mask : UInt64)
  | insertFailed (point : EncodedPoint) (thread : ThreadId) (cause : PointError)
  | rollbackFailed (point : EncodedPoint) (thread : ThreadId) (cause : PointError)
  | removeFailed (point : EncodedPoint) (thread : ThreadId) (cause : PointError)
  | restoreFailed (point : EncodedPoint) (thread : ThreadId) (cause : PointError)
  | slotHolds (thread : ThreadId) (point : EncodedPoint) (insertion : Insertion)
  | slotReleased (thread : ThreadId) (point : EncodedPoint) (removal : Removal)
  | registrationGone (thread : ThreadId) (handle : SlotHandle) (cause : KernelError)
  | bankWritten (thread : ThreadId) (bank : RegisterBank)
  | newThread (thread : ThreadId) (pattern : Option ThreadId)
  | legacyNotCopied (thread : ThreadId) (cause : KernelError)
  | staleNotReleased (thread : ThreadId) (handle : SlotHandle) (cause : KernelError)
  | registrationNotUndone (thread : ThreadId) (handle : SlotHandle) (cause : KernelError)
  | exitNotReleased (thread : ThreadId) (handle : SlotHandle) (cause : KernelError)
  | threadExited (thread : ThreadId)
  /-- The tables of a thread after the named operation. -/
  | registers (operation : String) (points : ThreadPoints)

namespace Notice

def level : Notice → LogLevel
  | .bankReading .. | .foreignDebugInfo .. | .queryFailed .. | .kernelMask .. | .insertFailed ..
  | .rollbackFailed .. | .removeFailed .. | .restoreFailed .. | .registrationGone ..
  | .legacyNotCopied .. | .registrationNotUndone .. => .warn
  | .degraded .. => .info
  | .capabilities .. | .legacyAbsent .. | .inserting .. | .removing .. | .insertingMasked ..
  | .removingMasked .. | .slotHolds .. | .slotReleased .. | .newThread .. | .threadExited .. => .debug
  | .bankWritten .. | .staleNotReleased .. | .exitNotReleased .. | .registers .. => .trace

def optionText {α : Type} [ToString α] : Option α → String
  | none => "None"
  | some value => s!"Some({value})"

def debugInfoText : DebugInfo → String
  | .arm breakpoints watchpoints =>
      "Arm \x7b breakpoints: " ++ optionText breakpoints ++ ", watchpoints: " ++
        optionText watchpoints ++ " \x7d"
  | .power reply =>
      "PowerPc(PpcDebugInfo \x7b version: " ++ toString reply.version ++
        ", num_instruction_bps: " ++ toString reply.instructionPoints ++
        ", num_data_bps: " ++ toString reply.dataPoints ++
        ", num_condition_regs: " ++ toString reply.comparators ++
        ", data_bp_alignment: " ++ toString reply.dataAlignment ++
        ", sizeof_condition: " ++ toString reply.comparatorWidth ++
        ", features: " ++ toString reply.features ++ " \x7d)"

def text : Notice → String
  | .bankReading bank reading => (reading.warning? bank).getD ""
  | .foreignDebugInfo info architecture =>
      "Debug info " ++ debugInfoText info ++ s!" does not match architecture {architecture}"
  | .queryFailed thread cause =>
      s!"Hardware debug capability query failed on thread {thread}: {cause}"
  | .capabilities caps => s!"Hardware debug capabilities: {caps}"
  | .legacyAbsent thread cause =>
      s!"Legacy debug register not available on thread {thread}: {cause}"
  | .degraded table =>
      s!"Kernel rejected a byte-address-select mask; restricting watchpoints to {table}"
  | .kernelMask mask address =>
      "The mask " ++ Hexadecimal.text mask.toNat ++
        s!" for a watchpoint at {address} covers kernel address space and cannot be used"
  | .inserting request fragments =>
      s!"Inserting {request.kind} at {request.address} (length {request.length}) " ++
        s!"as {fragments} fragment(s)"
  | .removing kind address => s!"Removing {kind} at {address}"
  | .insertingMasked kind address mask =>
      s!"Inserting masked {kind} at {address} (mask " ++ Hexadecimal.text mask.toNat ++ ")"
  | .removingMasked kind address mask =>
      s!"Removing masked {kind} at {address} (mask " ++ Hexadecimal.text mask.toNat ++ ")"
  | .insertFailed point thread cause =>
      s!"Inserting {point} failed on thread {thread}, rolling back: {cause}"
  | .rollbackFailed point thread cause =>
      s!"Rollback of {point} on thread {thread} failed: {cause}"
  | .removeFailed point thread cause =>
      s!"Removing {point} failed on thread {thread}, restoring: {cause}"
  | .restoreFailed point thread cause =>
      s!"Restoring {point} on thread {thread} failed: {cause}"
  | .slotHolds thread point insertion =>
      s!"Thread {thread}: {point.kind.bank} slot {insertion.index} holds {point} " ++
        s!"(fresh: {insertion.isFresh})"
  | .slotReleased thread point removal =>
      s!"Thread {thread}: {point.kind.bank} slot {removal.index} released {point} " ++
        s!"(freed: {removal.isFreed})"
  | .registrationGone thread handle cause =>
      s!"Thread {thread}: registration {handle} already gone ({cause}), freeing slot"
  | .bankWritten thread bank => s!"Thread {thread}: wrote {bank} bank"
  | .newThread thread pattern =>
      s!"New thread {thread} (template: " ++
        optionText (pattern.map fun thread => s!"ThreadId({thread})") ++ ")"
  | .legacyNotCopied thread cause =>
      s!"Could not copy the legacy debug register to thread {thread}: {cause}"
  | .staleNotReleased thread handle cause =>
      s!"Thread {thread}: stale handle {handle} not released: {cause}"
  | .registrationNotUndone thread handle cause =>
      s!"Thread {thread}: could not undo registration {handle}: {cause}"
  | .exitNotReleased thread handle cause =>
      s!"Thread {thread} exited; handle {handle} not released: {cause}"
  | .threadExited thread => s!"Thread {thread} exited, point set released"
  | .registers operation points => s!"{operation}: {points}"

def line (notice : Notice) : String :=
  s!"{notice.level} " ++ notice.text

end Notice

end DebugRegisters
