import DebugRegisters.Proofs.Kernel.Calls

/-!
# What kernel calls do

Every call is first taken in: it is recorded, and where a failure is in store
for it, or the thread is lost, it ends there. Beyond that a registration is
added or dropped on one thread, or the data breakpoint register of one thread is
set, and nothing else happens to any thread.
-/

set_option autoImplicit false

namespace DebugRegisters.SimulatedKernel

structure Enters (kernel : SimulatedKernel) (call : KernelCall) (thread : ThreadId)
    (error : Option KernelError) (after : SimulatedKernel) : Prop extends Keeps kernel after where
  nextHandle : after.nextHandle = kernel.nextHandle
  calls : after.calls = kernel.calls ++ [⟨call, thread, error⟩]

def Refuses (kernel : SimulatedKernel) (call : KernelCall) (thread : ThreadId)
    (cause : KernelError) : Prop :=
  (∃ failure ∈ kernel.failures, failure.concerns call thread = true ∧ failure.error = cause) ∨
    (thread ∈ kernel.vanished ∧ cause = .noSuchThread)

def withRegistration (kernel : SimulatedKernel) (thread : ThreadId) (point : EncodedPoint) :
    SimulatedKernel :=
  { kernel.update thread fun registers =>
      { registers with
        registrations := registers.registrations ++ [(kernel.nextHandle, ⟨point, .ofPoint point⟩)] }
    with nextHandle := kernel.nextHandle + 1 }

def withoutRegistration (kernel : SimulatedKernel) (thread : ThreadId) (number : Int) :
    SimulatedKernel :=
  kernel.update thread fun registers => registers.drop number

def withLegacy (kernel : SimulatedKernel) (thread : ThreadId) (value : UInt64) : SimulatedKernel :=
  kernel.update thread fun registers => { registers with legacy := value }

def withBank (kernel : SimulatedKernel) (thread : ThreadId) (bank : RegisterBank)
    (block : Arm.RegisterBlock) : SimulatedKernel :=
  { kernel.update thread fun registers => registers.setBank block bank with
    writes := kernel.writes ++ [⟨thread, bank, block⟩] }

section Registers

variable (kernel : SimulatedKernel) (point : EncodedPoint) (value : UInt64) {thread other : ThreadId}

theorem registrations_withRegistration_self (thread : ThreadId) :
    ((kernel.withRegistration thread point).threads thread).registrations =
      (kernel.threads thread).registrations ++ [(kernel.nextHandle, ⟨point, .ofPoint point⟩)] := by
  simp [withRegistration]

theorem registrations_withRegistration_of_ne (different : other ≠ thread) :
    ((kernel.withRegistration thread point).threads other).registrations =
      (kernel.threads other).registrations := by
  simp [withRegistration, different]

theorem mem_registrations_withRegistration {entry : Int × Registration} :
    entry ∈ ((kernel.withRegistration thread point).threads other).registrations ↔
      entry ∈ (kernel.threads other).registrations ∨
        other = thread ∧ entry = (kernel.nextHandle, ⟨point, .ofPoint point⟩) := by
  by_cases here : other = thread
  · subst here
    rw [registrations_withRegistration_self, List.mem_append, List.mem_singleton]
    simp
  · rw [registrations_withRegistration_of_ne _ _ here]
    simp [here]

theorem mem_registrations_withoutRegistration {number : Int} {entry : Int × Registration} :
    entry ∈ ((kernel.withoutRegistration thread number).threads other).registrations ↔
      entry ∈ (kernel.threads other).registrations ∧ ¬(other = thread ∧ entry.1 = number) := by
  unfold withoutRegistration
  by_cases here : other = thread
  · subst here
    rw [threads_update_self, ThreadRegisters.drop, List.mem_filter]
    simp
  · rw [threads_update_of_ne _ _ here]
    simp [here]

theorem legacy_withLegacy (thread : ThreadId) :
    ((kernel.withLegacy thread value).threads thread).legacy = value := by
  simp [withLegacy]

theorem threads_withLegacy_of_ne (different : other ≠ thread) :
    (kernel.withLegacy thread value).threads other = kernel.threads other :=
  threads_update_of_ne _ _ different

theorem registrations_withLegacy (thread other : ThreadId) :
    ((kernel.withLegacy thread value).threads other).registrations =
      (kernel.threads other).registrations := by
  by_cases here : other = thread
  · subst here
    simp [withLegacy]
  · rw [threads_withLegacy_of_ne _ _ here]

end Registers

section Outcomes

variable {kernel : SimulatedKernel}

inductive Admits (kernel : SimulatedKernel) (call : KernelCall) (thread : ThreadId) :
    Reply SimulatedKernel Unit → Prop where
  | admitted {after : SimulatedKernel} (entered : kernel.Enters call thread none after) :
      Admits kernel call thread (.ok (), after)
  | refused {cause : KernelError} {after : SimulatedKernel}
      (entered : kernel.Enters call thread (some cause) after)
      (refuses : kernel.Refuses call thread cause) :
      Admits kernel call thread (.error cause, after)

theorem admits (kernel : SimulatedKernel) (call : KernelCall) (thread : ThreadId) :
    Admits kernel call thread (kernel.enter call thread) := by
  unfold enter
  split
  · next failure found =>
      have kept : kernel.Keeps
          { kernel with
            failures := kernel.failures.eraseP fun failure => failure.concerns call thread } :=
        ⟨⟨rfl, rfl, rfl, rfl, fun _ member => List.mem_of_mem_eraseP member⟩, rfl, rfl⟩
      exact .refused ⟨kept.trans (record_keeps _ call thread (some failure.error)), rfl, rfl⟩
        (.inl ⟨failure, List.mem_of_find?_eq_some found, by simpa using List.find?_some found, rfl⟩)
  · by_cases lost : thread ∈ kernel.vanished
    · rw [if_pos lost]
      exact .refused ⟨record_keeps _ call thread (some .noSuchThread), rfl, rfl⟩ (.inr ⟨lost, rfl⟩)
    · rw [if_neg lost]
      exact .admitted ⟨record_keeps _ call thread none, rfl, rfl⟩

theorem admits_pause (kernel : SimulatedKernel) (thread : ThreadId) :
    Admits kernel .pause thread (Kernel.pause kernel thread) :=
  admits kernel .pause thread

inductive Registers (kernel : SimulatedKernel) (thread : ThreadId) (point : EncodedPoint) :
    Reply SimulatedKernel SlotHandle → Prop where
  | refused {cause : KernelError} {after : SimulatedKernel}
      (entered : kernel.Enters .register thread (some cause) after)
      (refuses : kernel.Refuses .register thread cause) :
      Registers kernel thread point (.error cause, after)
  | full {after : SimulatedKernel} (entered : kernel.Enters .register thread none after)
      (crowded : kernel.facility.bankSize point.kind.bank <
        (kernel.threads thread).used point.kind.bank + point.cost) :
      Registers kernel thread point (.error .noSpace, after)
  | foreign {after : SimulatedKernel} (entered : kernel.Enters .register thread none after)
      (other : ∀ reply, kernel.facility ≠ .handles reply) :
      Registers kernel thread point (.error .notSupported, after)
  | registered {after : SimulatedKernel} (entered : kernel.Enters .register thread none after)
      (room : (kernel.threads thread).used point.kind.bank + point.cost ≤
        kernel.facility.bankSize point.kind.bank) :
      Registers kernel thread point (.ok ⟨kernel.nextHandle⟩, after.withRegistration thread point)

theorem registers (kernel : SimulatedKernel) (thread : ThreadId) (point : EncodedPoint) :
    Registers kernel thread point (Kernel.register kernel thread point) := by
  change Registers kernel thread point (kernel.register thread point)
  have admitted := admits kernel .register thread
  unfold SimulatedKernel.register
  generalize kernel.enter .register thread = outcome at admitted
  cases admitted with
  | refused entered refuses => exact .refused entered refuses
  | @admitted after entered =>
      dsimp only
      split
      · rw [entered.facility, entered.threads]
        split
        · next crowded => exact .full entered crowded
        · next room =>
            have numbered := Registers.registered entered (Nat.le_of_not_lt room)
            unfold withRegistration at numbered
            rwa [← entered.nextHandle] at numbered
      · next other =>
          exact .foreign entered fun reply same => other reply (entered.facility.trans same)

inductive Deregisters (kernel : SimulatedKernel) (thread : ThreadId) (handle : SlotHandle) :
    Reply SimulatedKernel Unit → Prop where
  | refused {cause : KernelError} {after : SimulatedKernel}
      (entered : kernel.Enters .deregister thread (some cause) after)
      (refuses : kernel.Refuses .deregister thread cause) :
      Deregisters kernel thread handle (.error cause, after)
  | unknown {after : SimulatedKernel}
      (entered : kernel.Enters .deregister thread (some .notFound) after)
      (absent : (kernel.threads thread).isRegistered handle.number = false) :
      Deregisters kernel thread handle (.error .notFound, after)
  | dropped {after : SimulatedKernel} (entered : kernel.Enters .deregister thread none after)
      (there : (kernel.threads thread).isRegistered handle.number = true) :
      Deregisters kernel thread handle (.ok (), after.withoutRegistration thread handle.number)

/-- Only the last record is amended. -/
theorem calls_amendLast {calls : List CallRecord} {last : CallRecord}
    (recorded : kernel.calls = calls ++ [last]) (error : KernelError) :
    (kernel.amendLast error).calls = calls ++ [{ last with error := some error }] := by
  unfold SimulatedKernel.amendLast
  rw [recorded]
  simp [List.modify_eq_take_cons_drop]

theorem Enters.amendLast {call : KernelCall} {thread : ThreadId} {error : Option KernelError}
    {after : SimulatedKernel} (entered : kernel.Enters call thread error after)
    (amended : KernelError) : kernel.Enters call thread (some amended) (after.amendLast amended) where
  toKeeps := ⟨⟨entered.architecture, entered.facility, entered.maskTable, entered.vanished,
    entered.failures⟩, entered.threads, entered.writes⟩
  nextHandle := entered.nextHandle
  calls := calls_amendLast entered.calls amended

theorem deregisters (kernel : SimulatedKernel) (thread : ThreadId) (handle : SlotHandle) :
    Deregisters kernel thread handle (Kernel.deregister kernel thread handle) := by
  change Deregisters kernel thread handle (kernel.deregister thread handle)
  have admitted := admits kernel .deregister thread
  unfold SimulatedKernel.deregister
  generalize kernel.enter .deregister thread = outcome at admitted
  cases admitted with
  | refused entered refuses => exact .refused entered refuses
  | admitted entered =>
      dsimp only
      rw [entered.threads]
      split
      · next there => exact .dropped entered there
      · next absent => exact .unknown (entered.amendLast .notFound) (by simpa using absent)

inductive WritesLegacy (kernel : SimulatedKernel) (thread : ThreadId) (value : UInt64) :
    Reply SimulatedKernel Unit → Prop where
  | refused {cause : KernelError} {after : SimulatedKernel}
      (entered : kernel.Enters .writeLegacy thread (some cause) after) :
      WritesLegacy kernel thread value (.error cause, after)
  | written {after : SimulatedKernel} (entered : kernel.Enters .writeLegacy thread none after) :
      WritesLegacy kernel thread value (.ok (), after.withLegacy thread value)

theorem writesLegacy (kernel : SimulatedKernel) (thread : ThreadId) (value : UInt64) :
    WritesLegacy kernel thread value (Kernel.writeLegacy kernel thread value) := by
  change WritesLegacy kernel thread value (kernel.writeLegacy thread value)
  have admitted := admits kernel .writeLegacy thread
  unfold SimulatedKernel.writeLegacy
  split
  · generalize kernel.enter .writeLegacy thread = outcome at admitted
    cases admitted with
    | refused entered => exact .refused entered
    | admitted entered => exact .written entered
  · exact .refused ⟨record_keeps kernel .writeLegacy thread (some .notSupported), rfl, rfl⟩

inductive WritesBank (kernel : SimulatedKernel) (thread : ThreadId) (bank : RegisterBank)
    (block : Arm.RegisterBlock) : Reply SimulatedKernel Unit → Prop where
  | refused {cause : KernelError} {after : SimulatedKernel}
      (entered : kernel.Enters .writeRegisters thread (some cause) after) :
      WritesBank kernel thread bank block (.error cause, after)
  | written {after : SimulatedKernel} (entered : kernel.Enters .writeRegisters thread none after) :
      WritesBank kernel thread bank block (.ok (), after.withBank thread bank block)

theorem writesBank (kernel : SimulatedKernel) (thread : ThreadId) (bank : RegisterBank)
    (block : Arm.RegisterBlock) :
    WritesBank kernel thread bank block (Kernel.writeRegisters kernel thread bank block) := by
  change WritesBank kernel thread bank block (kernel.writeRegisters thread bank block)
  have recorded : ∀ cause : KernelError,
      WritesBank kernel thread bank block (kernel.record .writeRegisters thread (some cause)) :=
    fun cause => .refused ⟨record_keeps kernel .writeRegisters thread (some cause), rfl, rfl⟩
  have admitted := admits kernel .writeRegisters thread
  unfold SimulatedKernel.writeRegisters
  split
  · split
    · exact recorded _
    · split
      · exact recorded _
      · generalize kernel.enter .writeRegisters thread = outcome at admitted
        cases admitted with
        | refused entered => exact .refused entered
        | admitted entered => exact .written entered
  · exact recorded _

theorem debugInfo_enters (kernel : SimulatedKernel) (thread : ThreadId) :
    ∃ error, kernel.Enters .debugInfo thread error (Kernel.debugInfo kernel thread).2 := by
  have admitted := admits kernel .debugInfo thread
  change ∃ error, kernel.Enters .debugInfo thread error (kernel.debugInfo thread).2
  unfold SimulatedKernel.debugInfo
  generalize kernel.enter .debugInfo thread = outcome at admitted
  cases admitted with
  | refused entered => exact ⟨_, entered⟩
  | admitted entered =>
      refine ⟨none, ?_⟩
      dsimp only
      split <;> exact entered

theorem lastTrap_enters (kernel : SimulatedKernel) (thread : ThreadId) :
    ∃ error, kernel.Enters .lastTrap thread error (Kernel.lastTrap kernel thread).2 := by
  have admitted := admits kernel .lastTrap thread
  change ∃ error, kernel.Enters .lastTrap thread error (kernel.lastTrap thread).2
  unfold SimulatedKernel.lastTrap
  generalize kernel.enter .lastTrap thread = outcome at admitted
  cases admitted with
  | refused entered | admitted entered => exact ⟨_, entered⟩

end Outcomes

/-! ## What leaves the data breakpoint registers alone -/

theorem legacy_update (kernel : SimulatedKernel) (thread : ThreadId)
    (change : ThreadRegisters → ThreadRegisters)
    (same : ∀ registers, (change registers).legacy = registers.legacy) (other : ThreadId) :
    ((kernel.update thread change).threads other).legacy = (kernel.threads other).legacy := by
  by_cases here : other = thread
  · rw [here, threads_update_self, same]
  · rw [threads_update_of_ne _ _ here]

theorem legacy_setTrap (kernel : SimulatedKernel) (thread : ThreadId) (trap : Trap)
    (other : ThreadId) :
    ((kernel.setTrap thread trap).threads other).legacy = (kernel.threads other).legacy := by
  refine legacy_update kernel thread _ ?_ other
  exact fun _ => rfl

theorem legacy_withoutRegistration (kernel : SimulatedKernel) (thread : ThreadId) (number : Int)
    (other : ThreadId) :
    ((kernel.withoutRegistration thread number).threads other).legacy =
      (kernel.threads other).legacy := by
  refine legacy_update kernel thread _ ?_ other
  exact fun _ => rfl

theorem legacy_trigger (kernel : SimulatedKernel) (thread : ThreadId) (handle : SlotHandle)
    (address : Address) (other : ThreadId) :
    ((kernel.trigger thread handle address).threads other).legacy =
      (kernel.threads other).legacy := by
  have stopped := kernel.legacy_setTrap thread ⟨true, address, some handle.number⟩ other
  unfold trigger
  dsimp only
  split
  · exact (legacy_withoutRegistration _ thread handle.number other).trans stopped
  · exact stopped

theorem legacy_deregister (kernel : SimulatedKernel) (thread : ThreadId) (handle : SlotHandle)
    (other : ThreadId) :
    ((Kernel.deregister kernel thread handle).2.threads other).legacy =
      (kernel.threads other).legacy := by
  have outcome := deregisters kernel thread handle
  generalize Kernel.deregister kernel thread handle = reply at outcome
  cases outcome with
  | refused entered | unknown entered => rw [entered.threads]
  | dropped entered =>
      refine (legacy_withoutRegistration _ thread handle.number other).trans ?_
      rw [entered.threads]

end DebugRegisters.SimulatedKernel
