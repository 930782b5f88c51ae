import DebugRegisters.Arm.InfoWord
import DebugRegisters.MaskTable
import DebugRegisters.Power.Descriptor

/-!
# A simulated kernel

A kernel in memory, for replaying sessions. It keeps the register banks, the
registrations and the data breakpoint register of every thread, can be told to
fail, and records every call that names a thread.

A thread that was never touched and one whose registers are all in their first
state cannot be told apart, so the threads are a function.
-/

set_option autoImplicit false

namespace DebugRegisters

/-- A live registration: the point, and the descriptor that a processor gets. -/
structure Registration where
  point : EncodedPoint
  descriptor : Power.Descriptor
  deriving DecidableEq, Repr

structure ThreadRegisters where
  /-- A bank is there once it has been written. -/
  breakpoints : Option Arm.RegisterBlock
  watchpoints : Option Arm.RegisterBlock
  /-- Live registrations, oldest first, with the numbers of their handles. -/
  registrations : List (Int × Registration)
  legacy : UInt64
  trap : Option Trap
  deriving DecidableEq, Repr

namespace ThreadRegisters

def initial : ThreadRegisters := ⟨none, none, [], 0, none⟩

def bank (registers : ThreadRegisters) : RegisterBank → Option Arm.RegisterBlock
  | .breakpoints => registers.breakpoints
  | .watchpoints => registers.watchpoints

def setBank (registers : ThreadRegisters) (block : Arm.RegisterBlock) : RegisterBank → ThreadRegisters
  | .breakpoints => { registers with breakpoints := some block }
  | .watchpoints => { registers with watchpoints := some block }

def used (registers : ThreadRegisters) (bank : RegisterBank) : Nat :=
  ((registers.registrations.filter fun (_, live) => live.point.kind.bank = bank).map
    fun (_, live) => live.point.cost).foldr (· + ·) 0

def isRegistered (registers : ThreadRegisters) (number : Int) : Bool :=
  registers.registrations.any fun (live, _) => live = number

def drop (registers : ThreadRegisters) (number : Int) : ThreadRegisters :=
  { registers with
    registrations := registers.registrations.filter fun (live, _) => live ≠ number }

end ThreadRegisters

inductive Facility where
  /-- Register arrays, with the information words of their banks. -/
  | arrays (breakpoints watchpoints : UInt32)
  | handles (reply : Power.HardwareReply)
  | legacy
  | absent
  deriving DecidableEq, Repr

namespace Facility

def bankSize (facility : Facility) (bank : RegisterBank) : Nat :=
  match facility, bank with
  | .arrays breakpoints _, .breakpoints => (Arm.InfoWord.parse breakpoints).slots
  | .arrays _ watchpoints, .watchpoints => (Arm.InfoWord.parse watchpoints).slots
  | .handles reply, .breakpoints => reply.instructionPoints.toNat
  | .handles reply, .watchpoints => reply.dataPoints.toNat
  | .legacy, _ | .absent, _ => 0

end Facility

/-- A call that the kernel received, with the error it answered at once. -/
structure CallRecord where
  call : KernelCall
  thread : ThreadId
  error : Option KernelError
  deriving DecidableEq, Repr

/-- A failure ordered in advance, for any thread or for one. -/
structure OrderedFailure where
  call : KernelCall
  thread : Option ThreadId
  error : KernelError
  deriving DecidableEq, Repr

def OrderedFailure.concerns (failure : OrderedFailure) (call : KernelCall) (thread : ThreadId) : Bool :=
  failure.call == call &&
    match failure.thread with
    | none => true
    | some only => only == thread

structure BankWrite where
  thread : ThreadId
  bank : RegisterBank
  block : Arm.RegisterBlock
  deriving DecidableEq, Repr

structure SimulatedKernel where
  architecture : Architecture
  facility : Facility
  /-- The only byte masks that the kernel takes, where it is restricted. -/
  maskTable : Option MaskTable
  /-- A registration is dropped when it triggers. -/
  isOneShot : Bool
  threads : ThreadId → ThreadRegisters
  /-- Threads that have disappeared. -/
  vanished : List ThreadId
  nextHandle : Int
  /-- Failures ordered and not yet used, oldest first. -/
  failures : List OrderedFailure
  /-- All calls, oldest first. -/
  calls : List CallRecord
  /-- All successful bank writes, oldest first. -/
  writes : List BankWrite

namespace SimulatedKernel

def ofFacility (architecture : Architecture) (facility : Facility) : SimulatedKernel where
  architecture
  facility
  maskTable := none
  isOneShot := true
  threads := fun _ => .initial
  vanished := []
  nextHandle := 1
  failures := []
  calls := []
  writes := []

def withArrays (breakpoints watchpoints : UInt32) : SimulatedKernel :=
  ofFacility .aarch64 (.arrays (Arm.InfoWord.ofSlots breakpoints) (Arm.InfoWord.ofSlots watchpoints))

def powerArchitecture (isBookE : Bool) : Architecture :=
  if isBookE then .powerpcBookE else .powerpc

def withHandles (isBookE : Bool) (reply : Power.HardwareReply) : SimulatedKernel :=
  ofFacility (powerArchitecture isBookE) (.handles reply)

/-- An embedded processor: four instruction and two data registers, two
comparators, ranges and masks. -/
def embedded : SimulatedKernel :=
  withHandles true
    { version := 1, instructionPoints := 4, dataPoints := 2, comparators := 2,
      dataAlignment := 4, comparatorWidth := 4, features := 0xf }

/-- A server processor with one data register for a wide window. -/
def server : SimulatedKernel :=
  withHandles false
    { version := 1, instructionPoints := 0, dataPoints := 1, comparators := 0,
      dataAlignment := 8, comparatorWidth := 0, features := 0x14 }

def withLegacyRegister (isBookE : Bool) : SimulatedKernel :=
  ofFacility (powerArchitecture isBookE) .legacy

def withoutRegisters (architecture : Architecture) : SimulatedKernel :=
  ofFacility architecture .absent

/-! ## Controls of the simulation -/

def update (kernel : SimulatedKernel) (thread : ThreadId)
    (change : ThreadRegisters → ThreadRegisters) : SimulatedKernel :=
  let changed := change (kernel.threads thread)
  { kernel with threads := fun other => if other = thread then changed else kernel.threads other }

@[simp] theorem threads_update_self (kernel : SimulatedKernel) (thread : ThreadId)
    (change : ThreadRegisters → ThreadRegisters) :
    (kernel.update thread change).threads thread = change (kernel.threads thread) := by
  simp [update]

@[simp] theorem threads_update_of_ne (kernel : SimulatedKernel) {thread other : ThreadId}
    (change : ThreadRegisters → ThreadRegisters) (different : other ≠ thread) :
    (kernel.update thread change).threads other = kernel.threads other := by
  simp [update, different]

/-- Orders the next call of a kind, on any thread or on one, to fail. -/
def failNext (kernel : SimulatedKernel) (call : KernelCall) (thread : Option ThreadId)
    (error : KernelError) : SimulatedKernel :=
  { kernel with failures := kernel.failures ++ [⟨call, thread, error⟩] }

/-- Makes a thread disappear together with its registers. -/
def removeThread (kernel : SimulatedKernel) (thread : ThreadId) : SimulatedKernel :=
  let kernel := kernel.update thread fun _ => .initial
  { kernel with
    vanished := if thread ∈ kernel.vanished then kernel.vanished else thread :: kernel.vanished }

def setTrap (kernel : SimulatedKernel) (thread : ThreadId) (trap : Trap) : SimulatedKernel :=
  kernel.update thread fun registers => { registers with trap := some trap }

def trigger (kernel : SimulatedKernel) (thread : ThreadId) (handle : SlotHandle)
    (address : Address) : SimulatedKernel :=
  let stopped := kernel.setTrap thread ⟨true, address, some handle.number⟩
  if kernel.isOneShot then stopped.update thread fun registers => registers.drop handle.number
  else stopped

def clearRecords (kernel : SimulatedKernel) : SimulatedKernel :=
  { kernel with calls := [], writes := [] }

def count (kernel : SimulatedKernel) (call : KernelCall) : Nat :=
  kernel.calls.countP fun record => record.call == call

/-! ## Kernel calls -/

def record (kernel : SimulatedKernel) (call : KernelCall) (thread : ThreadId)
    (error : Option KernelError) : Reply SimulatedKernel Unit :=
  let kernel := { kernel with calls := kernel.calls ++ [⟨call, thread, error⟩] }
  match error with
  | none => (.ok (), kernel)
  | some error => (.error error, kernel)

/-- Begins a call: it fails where a failure was ordered for it, which uses the
order up, and it fails on a thread that disappeared. -/
def enter (kernel : SimulatedKernel) (call : KernelCall) (thread : ThreadId) :
    Reply SimulatedKernel Unit :=
  match kernel.failures.find? fun failure => failure.concerns call thread with
  | some failure =>
      { kernel with
        failures := kernel.failures.eraseP fun failure => failure.concerns call thread }.record
          call thread (some failure.error)
  | none =>
      kernel.record call thread (if thread ∈ kernel.vanished then some .noSuchThread else none)

/-- The kernel is restricted, and the block holds a watchpoint with a mask that
it does not take. -/
def rejects (kernel : SimulatedKernel) (bank : RegisterBank) (block : Arm.RegisterBlock) : Bool :=
  match kernel.maskTable, bank with
  | some table, .watchpoints =>
      block.pairs.any fun pair =>
        pair.isEnabled && !table.contains (Arm.ControlWord.mask pair.control)
  | _, _ => false

/-- Replaces the error in the record of the last call. -/
def amendLast (kernel : SimulatedKernel) (error : KernelError) : SimulatedKernel :=
  { kernel with
    calls := kernel.calls.modify (kernel.calls.length - 1) fun last => { last with error := some error } }

def debugInfo (kernel : SimulatedKernel) (thread : ThreadId) : Reply SimulatedKernel DebugInfo :=
  match kernel.enter .debugInfo thread with
  | (.error error, kernel) => (.error error, kernel)
  | (.ok (), kernel) =>
      match kernel.facility with
      | .arrays breakpoints watchpoints => (.ok (.arm (some breakpoints) (some watchpoints)), kernel)
      | .handles reply => (.ok (.power reply), kernel)
      | .legacy | .absent => (.error .notSupported, kernel)

/-- A bank that was never written holds disabled pairs. -/
def readRegisters (kernel : SimulatedKernel) (thread : ThreadId) (bank : RegisterBank) :
    Reply SimulatedKernel Arm.RegisterBlock :=
  match kernel.enter .readRegisters thread with
  | (.error error, kernel) => (.error error, kernel)
  | (.ok (), kernel) =>
      match kernel.facility with
      | .arrays breakpoints watchpoints =>
          let stored := ((kernel.threads thread).bank bank).getD
            (.disabled (kernel.facility.bankSize bank))
          let info := match bank with
            | .breakpoints => breakpoints
            | .watchpoints => watchpoints
          (.ok { stored with info }, kernel)
      | _ => (.error .notSupported, kernel)

/-- The contents of the block are looked at before the thread is. -/
def writeRegisters (kernel : SimulatedKernel) (thread : ThreadId) (bank : RegisterBank)
    (block : Arm.RegisterBlock) : Reply SimulatedKernel Unit :=
  match kernel.facility with
  | .arrays _ _ =>
      if kernel.rejects bank block then kernel.record .writeRegisters thread (some .rejected)
      else if kernel.facility.bankSize bank < block.pairs.length then
        kernel.record .writeRegisters thread (some .noSpace)
      else
        match kernel.enter .writeRegisters thread with
        | (.error error, kernel) => (.error error, kernel)
        | (.ok (), kernel) =>
            let kernel := kernel.update thread fun registers => registers.setBank block bank
            (.ok (), { kernel with writes := kernel.writes ++ [⟨thread, bank, block⟩] })
  | _ => kernel.record .writeRegisters thread (some .notSupported)

/-- A point is registered if the registers of its bank suffice. Handles are
numbered upwards and never used again. -/
def register (kernel : SimulatedKernel) (thread : ThreadId) (point : EncodedPoint) :
    Reply SimulatedKernel SlotHandle :=
  match kernel.enter .register thread with
  | (.error error, kernel) => (.error error, kernel)
  | (.ok (), kernel) =>
      match kernel.facility with
      | .handles _ =>
          let bank := point.kind.bank
          if kernel.facility.bankSize bank < (kernel.threads thread).used bank + point.cost then
            (.error .noSpace, kernel)
          else
            let number := kernel.nextHandle
            let kernel := kernel.update thread fun registers =>
              { registers with
                registrations := registers.registrations ++ [(number, ⟨point, .ofPoint point⟩)] }
            (.ok ⟨number⟩, { kernel with nextHandle := number + 1 })
      | _ => (.error .notSupported, kernel)

def deregister (kernel : SimulatedKernel) (thread : ThreadId) (handle : SlotHandle) :
    Reply SimulatedKernel Unit :=
  match kernel.enter .deregister thread with
  | (.error error, kernel) => (.error error, kernel)
  | (.ok (), kernel) =>
      if (kernel.threads thread).isRegistered handle.number then
        (.ok (), kernel.update thread fun registers => registers.drop handle.number)
      else (.error .notFound, kernel.amendLast .notFound)

def writeLegacy (kernel : SimulatedKernel) (thread : ThreadId) (value : UInt64) :
    Reply SimulatedKernel Unit :=
  match kernel.facility with
  | .legacy =>
      match kernel.enter .writeLegacy thread with
      | (.error error, kernel) => (.error error, kernel)
      | (.ok (), kernel) =>
          (.ok (), kernel.update thread fun registers => { registers with legacy := value })
  | _ => kernel.record .writeLegacy thread (some .notSupported)

def lastTrap (kernel : SimulatedKernel) (thread : ThreadId) : Reply SimulatedKernel (Option Trap) :=
  match kernel.enter .lastTrap thread with
  | (.error error, kernel) => (.error error, kernel)
  | (.ok (), kernel) => (.ok (kernel.threads thread).trap, kernel)

def pause (kernel : SimulatedKernel) (thread : ThreadId) : Reply SimulatedKernel Unit :=
  kernel.enter .pause thread

instance : Kernel SimulatedKernel where
  architecture := architecture
  debugInfo := debugInfo
  readRegisters := readRegisters
  writeRegisters := writeRegisters
  register := register
  deregister := deregister
  writeLegacy := writeLegacy
  lastTrap := lastTrap
  pause := pause

end SimulatedKernel

end DebugRegisters
