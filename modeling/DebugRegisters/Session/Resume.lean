import DebugRegisters.Session

/-!
# Writing banks before a thread resumes

With register arrays, the banks of a thread that changed are written before it
resumes. The first time that a watchpoint bank is rejected, the session goes
over to the masks of its table: every installed watchpoint is changed, on every
thread, and the bank is written once more.
-/

set_option autoImplicit false

namespace DebugRegisters

namespace ThreadPoints

def restrict (points : ThreadPoints) (table : MaskTable) : ThreadPoints :=
  let (restricted, changed) := points.watchpoints.table.mapPoints table.restrict
  changed.foldl (fun points index => points.markDirty .watchpoints index)
    (points.setTable .watchpoints restricted)

end ThreadPoints

namespace Session

variable {κ : Type}

/-- Goes over to a restriction: reports it, and keeps every installed watchpoint
to its table. -/
def restrictTo (session : Session κ) (restriction : Restriction) : Session κ :=
  let session := session.notify (.degraded restriction.table)
  { session with
    restriction
    sets := session.sets.map fun points => points.restrict restriction.table }.showRegisters "degrade"

/-- The session to try a failed bank write again with, if it is to be tried
again: the first time that a watchpoint bank is rejected. -/
def degradeFor? (session : Session κ) (bank : RegisterBank) (cause : KernelError) :
    Option (Session κ) :=
  if cause = .rejected ∧ bank = .watchpoints then
    session.restriction.degrade?.map session.restrictTo
  else none

def markWritten (session : Session κ) (thread : ThreadId) (bank : RegisterBank) : Session κ :=
  { session with sets := session.sets.update thread fun points => points.clearDirty bank }.notify
    (.bankWritten thread bank)

def bankBlock (session : Session κ) (thread : ThreadId) (bank : RegisterBank) : Arm.RegisterBlock :=
  match session.sets.get? thread with
  | none => .empty
  | some points => (points.table bank).registerBlock

variable [Kernel κ]

/-- Writes a bank of a thread, without regard to what changed. -/
def writeBank (session : Session κ) (thread : ThreadId) (bank : RegisterBank) :
    Except KernelError Unit × Session κ :=
  let (answer, kernel) :=
    Kernel.writeRegisters session.kernel thread bank (session.bankBlock thread bank)
  (answer, { session with kernel })

def writeFailure (thread : ThreadId) (bank : RegisterBank) (cause : KernelError) : PointError :=
  if cause = .rejected ∧ bank = .watchpoints then .kernelRejected thread
  else .kernel .writeRegisters thread cause

def flushBank (session : Session κ) (thread : ThreadId) (bank : RegisterBank) : Outcome κ Unit :=
  let isDirty := match session.sets.get? thread with
    | none => false
    | some points => points.dirty bank != 0
  if !isDirty then (.ok (), session)
  else
    match session.writeBank thread bank with
    | (.ok (), session) => (.ok (), session.markWritten thread bank)
    | (.error cause, session) =>
        match session.degradeFor? bank cause with
        | none => (.error (writeFailure thread bank cause), session)
        | some session =>
            match session.writeBank thread bank with
            | (.ok (), session) => (.ok (), session.markWritten thread bank)
            | (.error cause, session) => (.error (writeFailure thread bank cause), session)

def flushBanks (session : Session κ) (thread : ThreadId) : List RegisterBank → Outcome κ Unit
  | [] => (.ok (), session)
  | bank :: rest =>
      match session.flushBank thread bank with
      | (.error error, session) => (.error error, session)
      | (.ok (), session) => session.flushBanks thread rest

/-- Makes the registers of a thread agree with its tables before it resumes.
Other kernels than those with register arrays have got every change already. -/
def prepareToResume (session : Session κ) (thread : ThreadId) : Outcome κ Unit :=
  let (caps, session) := session.capabilities
  if caps.interface = .registerArray then session.flushBanks thread RegisterBank.all
  else (.ok (), session)

end Session

end DebugRegisters
