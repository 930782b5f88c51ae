import DebugRegisters.Notice

/-!
# Probing

What the kernel answers to the question for its debug registers is turned into
capabilities. Probing never fails: a missing or unfit answer only means less.
On PowerPC the single data breakpoint register is tried before giving up.
-/

set_option autoImplicit false

namespace DebugRegisters.Capabilities

/-- The warnings that go with a pair of information words. -/
def infoWordNotices (breakpoints watchpoints : Option UInt32) : List Notice :=
  [(RegisterBank.breakpoints, breakpoints), (.watchpoints, watchpoints)].filterMap
    fun (bank, word) =>
      let reading := Arm.BankReading.ofWord word
      if (reading.warning? bank.name).isSome then some (.bankReading bank.name reading) else none

/-- What an answer of the kernel comes to for a process of the given
architecture. -/
def ofDebugInfo? (architecture : Architecture) (info : DebugInfo) :
    Option Capabilities × List Notice :=
  match info with
  | .arm breakpoints watchpoints =>
      if !architecture.isArm then (none, [.foreignDebugInfo info architecture])
      else if breakpoints.isNone && watchpoints.isNone then (none, [])
      else
        (some (ofInfoWords architecture breakpoints watchpoints),
          infoWordNotices breakpoints watchpoints)
  | .power reply =>
      if !architecture.isPowerPC then (none, [.foreignDebugInfo info architecture])
      else (ofReply? architecture reply, [])

variable {κ : Type} [Kernel κ]

/-- Asks the kernel once. Without an answer to use there are no capabilities. -/
def query? (kernel : κ) (thread : ThreadId) : Option Capabilities × κ × List Notice :=
  let architecture := Kernel.architecture kernel
  match Kernel.debugInfo kernel thread with
  | (.ok info, kernel) =>
      let (caps?, notices) := ofDebugInfo? architecture info
      (caps?, kernel, notices)
  | (.error .notSupported, kernel) => (none, kernel, [])
  | (.error cause, kernel) => (none, kernel, [.queryFailed thread cause])

/-- What is left where the query gave nothing. Writing zero to the single data
breakpoint register shows whether it is there. -/
def fallback (kernel : κ) (thread : ThreadId) : Capabilities × κ × List Notice :=
  let architecture := Kernel.architecture kernel
  if architecture.isPowerPC then
    match Kernel.writeLegacy kernel thread 0 with
    | (.ok (), kernel) => (legacy architecture, kernel, [])
    | (.error cause, kernel) => (unavailable architecture, kernel, [.legacyAbsent thread cause])
  else (unavailable architecture, kernel, [])

/-- The capabilities of a session, found on one of its threads. -/
def probe (kernel : κ) (thread : ThreadId) : Capabilities × κ × List Notice :=
  match query? kernel thread with
  | (some caps, kernel, notices) => (caps, kernel, notices ++ [.capabilities caps])
  | (none, kernel, notices) =>
      let (caps, kernel, more) := fallback kernel thread
      (caps, kernel, notices ++ more ++ [.capabilities caps])

/-- The capabilities found before, or those found now. -/
def cachedOrProbe (cached : Option Capabilities) (kernel : κ) (thread : ThreadId) :
    Capabilities × κ × List Notice :=
  match cached with
  | some caps => (caps, kernel, [])
  | none => probe kernel thread

end DebugRegisters.Capabilities
