import DebugRegisters.Capabilities.Probe
import DebugRegisters.Condition.Acceleration
import DebugRegisters.Encoding
import DebugRegisters.Settings

/-!
# Sessions

A session keeps the points of one traced process in step on all its threads. It
holds the kernel, the capabilities once they are known, the restriction of byte
masks, the threads and their points.

Every operation answers a result and the session after it, also when it fails:
what a failed operation leaves behind is part of its meaning. This module holds
the session itself and the questions that change no point.
-/

set_option autoImplicit false

namespace DebugRegisters

structure Session (κ : Type) where
  kernel : κ
  settings : Settings
  /-- The capabilities, once they were found. -/
  capabilities? : Option Capabilities
  restriction : Restriction
  /-- The thread on which capabilities are found. -/
  leader : ThreadId
  /-- The live threads, in the order in which they were reported. -/
  threads : List ThreadId
  sets : ThreadSets
  /-- The last value written to the single data breakpoint register. -/
  legacyValue : UInt64
  /-- What the session reported, oldest first. -/
  notices : List Notice

abbrev Outcome (κ α : Type) := Except PointError α × Session κ

inductive Availability where
  | available
  /-- There are no registers for the kind. -/
  | unsupported
  /-- There are too few registers. -/
  | exhausted
  deriving DecidableEq, Repr

namespace Session

variable {κ : Type}

/-- A session on a process whose first thread is `leader`. Capabilities that are
not given are found when they are first needed. -/
def start (kernel : κ) (leader : ThreadId) (settings : Settings)
    (capabilities? : Option Capabilities) : Session κ where
  kernel
  settings
  capabilities?
  restriction := settings.restriction
  leader
  threads := [leader]
  sets := .empty
  legacyValue := 0
  notices := []

def notify (session : Session κ) (notice : Notice) : Session κ :=
  { session with notices := session.notices ++ [notice] }

def clearNotices (session : Session κ) : Session κ :=
  { session with notices := [] }

def liveSets (session : Session κ) : List ThreadPoints :=
  session.threads.filterMap session.sets.get?

/-- Reports the tables of all live threads after an operation, where the
settings ask for it. -/
def showRegisters (session : Session κ) (operation : String) : Session κ :=
  if session.settings.showsRegisters then
    { session with notices := session.notices ++ session.liveSets.map (.registers operation) }
  else session

def hasPoints (session : Session κ) (thread : ThreadId) (bank : RegisterBank) : Bool :=
  match session.sets.get? thread with
  | none => false
  | some points => !(points.table bank).isEmpty

variable [Kernel κ]

def capabilities (session : Session κ) : Capabilities × Session κ :=
  let (caps, kernel, notices) :=
    Capabilities.cachedOrProbe session.capabilities? session.kernel session.leader
  (caps,
    { session with
      kernel, capabilities? := some caps, notices := session.notices ++ notices })

end Session

namespace Capabilities

/-- Whether `count` points of a kind can be used beside `others` watchpoints.
With register arrays only the kind decides, because watches that overlap share
registers in ways that a count does not tell. -/
def availability (caps : Capabilities) (kind : PointKind) (count others : Nat) : Availability :=
  let total := caps.slots kind.bank
  let needed := if kind.isWatchpoint then count + others else count
  if total = 0 ∨ caps.interface = .unavailable then .unsupported
  else if (caps.interface = .handles ∨ caps.interface = .legacy) ∧ total < needed then .exhausted
  else .available

/-- The bytes from `address` on fit the aligned window around it. A window of no
bytes is no limit. -/
def fitsWindow (address : Address) (length window : UInt64) : Bool :=
  window == 0 ||
    Word.saturatingAdd address.value length ≤
      Word.saturatingAdd (address.alignDown window).value window

/-- Whether a range can be watched at all, whatever is installed. -/
def canWatch (caps : Capabilities) (address : Address) (length : UInt64) : Bool :=
  if length = 0 then false
  else
    match caps.interface with
    | .unavailable => false
    | .registerArray =>
        if caps.watchpointSlots = 0 then false
        else
          let reach := Word.saturatingMul (UInt64.ofNat caps.watchpointSlots) caps.maxWatchLength
          Word.saturatingAdd address.value length ≤
            Word.saturatingAdd (address.alignDown caps.alignment).value reach
    | .handles =>
        if caps.usesRanges length && caps.rangeWindow.isNone then true
        else fitsWindow address length (caps.rangeWindow.getD caps.alignment)
    | .legacy => fitsWindow address length caps.alignment

def rangedBreakpointRegisters? (caps : Capabilities) : Option Nat :=
  if caps.interface = .handles ∧ caps.has .instructionRange then some 2 else none

def hasMaskedWatchpoints (caps : Capabilities) : Bool :=
  caps.interface == .handles && caps.has .dataMask

def canAccelerate (caps : Capabilities) (address : Address) (condition : Condition) : Bool :=
  caps.interface == .handles && 0 < caps.comparators &&
    (condition.constantComparison? address).isSome

/-- Whether a reported trap address belongs to the watch of `length` bytes from
`start`. PowerPC drops the low bits of the addresses it reports, except where a
BookE kernel watches ranges, so there whole granules are compared. -/
def trapBelongs (caps : Capabilities) (address start : Address) (length : UInt64) : Bool :=
  let isBookE := caps.architecture.isBookE
  if caps.interface == .handles && isBookE then
    start.value ≤ address.value && address.value ≤ start.value + length
  else if caps.architecture.isPowerPC then
    let lowBits : UInt64 := if isBookE then 3 else 7
    let granule := address.value &&& ~~~lowBits
    start.value ≤ granule + lowBits && granule ≤ start.value + length - 1
  else start.value ≤ address.value && address.value < start.value + length

/-- The comparator for a request's condition. Ranges cannot have one, and only
handle-based kernels take any. -/
def comparatorFor? (caps : Capabilities) (request : PointRequest) : Option Comparator :=
  match request.condition with
  | none => none
  | some condition =>
      if caps.interface ≠ .handles ∨ caps.usesRanges request.length then none
      else condition.comparator? request.address caps.comparatorWidth

end Capabilities

namespace Session

variable {κ : Type} [Kernel κ]

/-- Whether a range can be watched at all, whatever is installed. For a range of
no bytes the answer is known without the capabilities, and they are not looked
for. -/
def canWatch (session : Session κ) (address : Address) (length : UInt64) : Bool × Session κ :=
  if length = 0 then (false, session)
  else
    let (caps, session) := session.capabilities
    (caps.canWatch address length, session)

/-- The registers that a masked watchpoint takes, if there are such. A mask that
matches kernel addresses is refused with a warning. -/
def maskedWatchRegisters (session : Session κ) (address : Address) (mask : UInt64) :
    Outcome κ (Option Nat) :=
  let (caps, session) := session.capabilities
  if !caps.hasMaskedWatchpoints then (.ok none, session)
  else if !keepsUserBits mask then
    (.error (.invalidArgument (.kernelMask mask)), session.notify (.kernelMask mask address))
  else (.ok (some 2), session)

def encodeRequest (session : Session κ) (request : PointRequest) (caps : Capabilities)
    (comparator : Option Comparator) : Except PointError (List EncodedPoint) :=
  encode request caps ⟨session.restriction.table?, comparator⟩

end Session

end DebugRegisters
