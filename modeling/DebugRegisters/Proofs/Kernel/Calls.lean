import DebugRegisters.Kernel.Simulated

/-!
# What kernel calls leave alone

No call changes what the simulated kernel is, brings a lost thread back or adds
to the failures in store. Most calls also leave the registers of every thread.
A call that succeeds was made on a thread that is still there.
-/

set_option autoImplicit false

namespace DebugRegisters.SimulatedKernel

structure Follows (kernel after : SimulatedKernel) : Prop where
  architecture : after.architecture = kernel.architecture
  facility : after.facility = kernel.facility
  maskTable : after.maskTable = kernel.maskTable
  vanished : after.vanished = kernel.vanished
  failures : ∀ failure ∈ after.failures, failure ∈ kernel.failures

structure Keeps (kernel after : SimulatedKernel) : Prop extends Follows kernel after where
  threads : after.threads = kernel.threads
  writes : after.writes = kernel.writes

theorem Follows.refl (kernel : SimulatedKernel) : kernel.Follows kernel :=
  ⟨rfl, rfl, rfl, rfl, fun _ member => member⟩

theorem Follows.trans {kernel middle after : SimulatedKernel} (first : kernel.Follows middle)
    (second : middle.Follows after) : kernel.Follows after where
  architecture := second.architecture.trans first.architecture
  facility := second.facility.trans first.facility
  maskTable := second.maskTable.trans first.maskTable
  vanished := second.vanished.trans first.vanished
  failures failure member := first.failures failure (second.failures failure member)

theorem Keeps.refl (kernel : SimulatedKernel) : kernel.Keeps kernel :=
  ⟨.refl kernel, rfl, rfl⟩

theorem Keeps.trans {kernel middle after : SimulatedKernel} (first : kernel.Keeps middle)
    (second : middle.Keeps after) : kernel.Keeps after :=
  ⟨first.toFollows.trans second.toFollows, second.threads.trans first.threads,
    second.writes.trans first.writes⟩

section Calls

variable {kernel after : SimulatedKernel} {call : KernelCall} {thread : ThreadId}

theorem record_keeps (kernel : SimulatedKernel) (call : KernelCall) (thread : ThreadId)
    (error : Option KernelError) : kernel.Keeps (kernel.record call thread error).2 := by
  unfold record
  cases error <;> exact ⟨⟨rfl, rfl, rfl, rfl, fun _ member => member⟩, rfl, rfl⟩

theorem record_answer (kernel : SimulatedKernel) (call : KernelCall) (thread : ThreadId)
    (error : Option KernelError) :
    (kernel.record call thread error).1 = match error with
      | none => .ok ()
      | some error => .error error := by
  cases error <;> rfl

theorem enter_keeps (kernel : SimulatedKernel) (call : KernelCall) (thread : ThreadId) :
    kernel.Keeps (kernel.enter call thread).2 := by
  unfold enter
  split
  · have used : kernel.Keeps
        { kernel with
          failures := kernel.failures.eraseP fun failure => failure.concerns call thread } :=
      ⟨⟨rfl, rfl, rfl, rfl, fun _ member => List.mem_of_mem_eraseP member⟩, rfl, rfl⟩
    exact used.trans (record_keeps _ _ _ _)
  · exact record_keeps _ _ _ _

theorem enter_ok (entered : kernel.enter call thread = (.ok (), after)) :
    kernel.Keeps after ∧ thread ∉ kernel.vanished := by
  have keeps := enter_keeps kernel call thread
  rw [entered] at keeps
  refine ⟨keeps, fun lost => ?_⟩
  have answer : (kernel.enter call thread).1 = .ok () := congrArg Prod.fst entered
  unfold enter at answer
  split at answer <;> simp [record_answer, lost] at answer

theorem enter_answer (undisturbed : ∀ failure ∈ kernel.failures, failure.call ≠ call)
    (there : thread ∉ kernel.vanished) : (kernel.enter call thread).1 = .ok () := by
  have none : kernel.failures.find? (fun failure => failure.concerns call thread) = none := by
    rw [List.find?_eq_none]
    intro failure member concerned
    have same : (failure.call == call) = true := by
      simp only [OrderedFailure.concerns, Bool.and_eq_true] at concerned
      exact concerned.1
    exact undisturbed failure member (by simpa using same)
  simp [enter, none, record_answer, there]

theorem pause_keeps (kernel : SimulatedKernel) (thread : ThreadId) :
    kernel.Keeps (Kernel.pause kernel thread).2 :=
  enter_keeps _ _ _

theorem debugInfo_keeps (kernel : SimulatedKernel) (thread : ThreadId) :
    kernel.Keeps (Kernel.debugInfo kernel thread).2 := by
  change kernel.Keeps (kernel.debugInfo thread).2
  have keeps := enter_keeps kernel .debugInfo thread
  unfold SimulatedKernel.debugInfo
  split
  · next entered => rwa [entered] at keeps
  · next entered =>
      rw [entered] at keeps
      split <;> exact keeps

theorem lastTrap_keeps (kernel : SimulatedKernel) (thread : ThreadId) :
    kernel.Keeps (Kernel.lastTrap kernel thread).2 := by
  change kernel.Keeps (kernel.lastTrap thread).2
  have keeps := enter_keeps kernel .lastTrap thread
  unfold SimulatedKernel.lastTrap
  split <;> next entered => rwa [entered] at keeps

theorem register_follows (kernel : SimulatedKernel) (thread : ThreadId) (point : EncodedPoint) :
    kernel.Follows (Kernel.register kernel thread point).2 := by
  change kernel.Follows (kernel.register thread point).2
  have keeps := enter_keeps kernel .register thread
  unfold SimulatedKernel.register
  split
  · next entered =>
      rw [entered] at keeps
      exact keeps.toFollows
  · next entered =>
      rw [entered] at keeps
      split
      · dsimp only
        split
        · exact keeps.toFollows
        · exact keeps.toFollows.trans ⟨rfl, rfl, rfl, rfl, fun _ member => member⟩
      · exact keeps.toFollows

theorem deregister_follows (kernel : SimulatedKernel) (thread : ThreadId) (handle : SlotHandle) :
    kernel.Follows (Kernel.deregister kernel thread handle).2 := by
  change kernel.Follows (kernel.deregister thread handle).2
  have keeps := enter_keeps kernel .deregister thread
  unfold SimulatedKernel.deregister
  split
  · next entered =>
      rw [entered] at keeps
      exact keeps.toFollows
  · next entered =>
      rw [entered] at keeps
      split <;> exact keeps.toFollows.trans ⟨rfl, rfl, rfl, rfl, fun _ member => member⟩

theorem writeLegacy_follows (kernel : SimulatedKernel) (thread : ThreadId) (value : UInt64) :
    kernel.Follows (Kernel.writeLegacy kernel thread value).2 := by
  change kernel.Follows (kernel.writeLegacy thread value).2
  have keeps := enter_keeps kernel .writeLegacy thread
  unfold SimulatedKernel.writeLegacy
  split
  · split
    · next entered =>
        rw [entered] at keeps
        exact keeps.toFollows
    · next entered =>
        rw [entered] at keeps
        exact keeps.toFollows.trans ⟨rfl, rfl, rfl, rfl, fun _ member => member⟩
  · exact (record_keeps _ _ _ _).toFollows

theorem writeLegacy_keeps (absent : kernel.facility ≠ .legacy) (value : UInt64) :
    kernel.Keeps (Kernel.writeLegacy kernel thread value).2 := by
  change kernel.Keeps (kernel.writeLegacy thread value).2
  unfold SimulatedKernel.writeLegacy
  split
  · contradiction
  · exact record_keeps _ _ _ _

inductive Writes (kernel : SimulatedKernel) (thread : ThreadId) (bank : RegisterBank)
    (block : Arm.RegisterBlock) : Reply SimulatedKernel Unit → Prop where
  | failed {cause : KernelError} {after : SimulatedKernel} (keeps : kernel.Keeps after) :
      Writes kernel thread bank block (.error cause, after)
  | written {after : SimulatedKernel} (follows : kernel.Follows after)
      (there : thread ∉ kernel.vanished)
      (self : after.threads thread = (kernel.threads thread).setBank block bank)
      (others : ∀ other, other ≠ thread → after.threads other = kernel.threads other) :
      Writes kernel thread bank block (.ok (), after)

theorem writes_writeRegisters (kernel : SimulatedKernel) (thread : ThreadId) (bank : RegisterBank)
    (block : Arm.RegisterBlock) :
    Writes kernel thread bank block (Kernel.writeRegisters kernel thread bank block) := by
  change Writes kernel thread bank block (kernel.writeRegisters thread bank block)
  have recorded : ∀ cause : KernelError,
      Writes kernel thread bank block (kernel.record .writeRegisters thread (some cause)) :=
    fun cause => .failed (record_keeps kernel .writeRegisters thread (some cause))
  unfold SimulatedKernel.writeRegisters
  split
  · split
    · exact recorded _
    · split
      · exact recorded _
      · split
        · next entered =>
            have keeps := enter_keeps kernel .writeRegisters thread
            rw [entered] at keeps
            exact .failed keeps
        · next entered =>
            obtain ⟨keeps, there⟩ := enter_ok entered
            refine .written (keeps.toFollows.trans ⟨rfl, rfl, rfl, rfl, fun _ member => member⟩)
              there ?_ fun other different => ?_
            · simp [keeps.threads]
            · simp [different, keeps.threads]
  · exact recorded _

end Calls

theorem setTrap_follows (kernel : SimulatedKernel) (thread : ThreadId) (trap : Trap) :
    kernel.Follows (kernel.setTrap thread trap) :=
  ⟨rfl, rfl, rfl, rfl, fun _ member => member⟩

theorem trigger_follows (kernel : SimulatedKernel) (thread : ThreadId) (handle : SlotHandle)
    (address : Address) : kernel.Follows (kernel.trigger thread handle address) := by
  unfold trigger
  dsimp only
  split <;> exact ⟨rfl, rfl, rfl, rfl, fun _ => id⟩

theorem calls_trigger (kernel : SimulatedKernel) (thread : ThreadId) (handle : SlotHandle)
    (address : Address) : (kernel.trigger thread handle address).calls = kernel.calls := by
  unfold trigger
  dsimp only
  split <;> rfl

/-- Only bank writes can fail: no other failure is in store, and no thread is lost. -/
structure OnlyWritesFail (kernel : SimulatedKernel) : Prop where
  failures : ∀ failure ∈ kernel.failures, failure.call = .writeRegisters
  vanished : kernel.vanished = []

section Reliable

variable {kernel after : SimulatedKernel}

theorem OnlyWritesFail.follows (reliable : kernel.OnlyWritesFail) (later : kernel.Follows after) :
    after.OnlyWritesFail where
  failures failure member := reliable.failures failure (later.failures failure member)
  vanished := later.vanished.trans reliable.vanished

theorem OnlyWritesFail.enter_answer (reliable : kernel.OnlyWritesFail) {call : KernelCall}
    (other : call ≠ .writeRegisters) (thread : ThreadId) :
    (kernel.enter call thread).1 = .ok () := by
  refine SimulatedKernel.enter_answer (fun failure member same => ?_) (by simp [reliable.vanished])
  exact other (same.symm.trans (reliable.failures failure member))

theorem OnlyWritesFail.pause_answer (reliable : kernel.OnlyWritesFail) (thread : ThreadId) :
    (Kernel.pause kernel thread).1 = .ok () :=
  reliable.enter_answer (by decide) thread

/-- A registration that is given up was there, or is known to be gone. -/
theorem OnlyWritesFail.deregister_answer (reliable : kernel.OnlyWritesFail) (thread : ThreadId)
    (handle : SlotHandle) :
    (Kernel.deregister kernel thread handle).1 = .ok () ∨
      (Kernel.deregister kernel thread handle).1 = .error .notFound := by
  change (kernel.deregister thread handle).1 = _ ∨ (kernel.deregister thread handle).1 = _
  have entered := reliable.enter_answer (show KernelCall.deregister ≠ .writeRegisters by decide) thread
  unfold SimulatedKernel.deregister
  split
  · next failed =>
      rw [failed] at entered
      cases entered
  · split
    · exact .inl rfl
    · exact .inr rfl

theorem OnlyWritesFail.writeLegacy_answer (reliable : kernel.OnlyWritesFail)
    (legacy : kernel.facility = .legacy) (thread : ThreadId) (value : UInt64) :
    (Kernel.writeLegacy kernel thread value).1 = .ok () := by
  change (kernel.writeLegacy thread value).1 = _
  have entered := reliable.enter_answer (show KernelCall.writeLegacy ≠ .writeRegisters by decide) thread
  unfold SimulatedKernel.writeLegacy
  simp only [legacy]
  split
  · next failed =>
      rw [failed] at entered
      cases entered
  · rfl

end Reliable

end DebugRegisters.SimulatedKernel
