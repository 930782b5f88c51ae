import DebugRegisters.Proofs.Kernel.Effects
import DebugRegisters.Proofs.Session.Invariants

/-!
# Records and numbers of a kernel

The kernel's record of calls tells what happened to its data breakpoint
registers: where no write is on record, none took place. Changes of points add to
that record and leave the banks of every thread alone. Registrations are numbered
upwards, so the next one has a number that no live one has.
-/

set_option autoImplicit false

namespace DebugRegisters

namespace SimulatedKernel

section Effects

variable {related : SimulatedKernel → SimulatedKernel → Prop}

/-- To look at a call is to look at what is recorded first and at what it does
then. -/
theorem acrossChanges_of_effects (refl : ∀ kernel, related kernel kernel)
    (trans : ∀ {kernel middle after}, related kernel middle → related middle after →
      related kernel after)
    (enters : ∀ {kernel after : SimulatedKernel} {call thread error},
      kernel.Enters call thread error after → call ≠ .writeRegisters → related kernel after)
    (register : ∀ kernel thread point, related kernel (kernel.withRegistration thread point))
    (deregister : ∀ kernel thread number, related kernel (kernel.withoutRegistration thread number))
    (writeLegacy : ∀ {kernel after : SimulatedKernel} {thread} (value),
      kernel.Enters .writeLegacy thread none after → related kernel (after.withLegacy thread value)) :
    AcrossChanges related where
  refl := refl
  trans := trans
  debugInfo kernel thread := enters (debugInfo_enters kernel thread).choose_spec nofun
  pause kernel thread := by
    have admitted := admits_pause kernel thread
    generalize Kernel.pause kernel thread = outcome at admitted
    cases admitted with
    | refused entered | admitted entered => exact enters entered nofun
  register kernel thread point := by
    have outcome := registers kernel thread point
    generalize Kernel.register kernel thread point = reply at outcome
    cases outcome with
    | refused entered | full entered | foreign entered => exact enters entered nofun
    | registered entered => exact trans (enters entered nofun) (register _ thread point)
  deregister kernel thread handle := by
    have outcome := deregisters kernel thread handle
    generalize Kernel.deregister kernel thread handle = reply at outcome
    cases outcome with
    | refused entered | unknown entered => exact enters entered nofun
    | dropped entered => exact trans (enters entered nofun) (deregister _ thread handle.number)
  writeLegacy kernel thread value := by
    have outcome := writesLegacy kernel thread value
    generalize Kernel.writeLegacy kernel thread value = reply at outcome
    cases outcome with
    | refused entered => exact enters entered nofun
    | written entered => exact writeLegacy value entered
  lastTrap kernel thread := enters (lastTrap_enters kernel thread).choose_spec nofun

theorem acrossCalls_of_effects (changes : AcrossChanges related)
    (enters : ∀ {kernel after : SimulatedKernel} {call thread error},
      kernel.Enters call thread error after → related kernel after)
    (writeRegisters : ∀ kernel thread bank block,
      related kernel (kernel.withBank thread bank block)) : AcrossCalls related where
  toAcrossChanges := changes
  writeRegisters kernel thread bank block := by
    have outcome := writesBank kernel thread bank block
    generalize Kernel.writeRegisters kernel thread bank block = reply at outcome
    cases outcome with
    | refused entered => exact enters entered
    | written entered => exact changes.trans (enters entered) (writeRegisters _ thread bank block)

end Effects

def timesSet (kernel : SimulatedKernel) (thread : ThreadId) : Nat :=
  kernel.calls.count ⟨.writeLegacy, thread, none⟩

structure Continues (kernel after : SimulatedKernel) : Prop where
  calls : kernel.calls <+: after.calls
  writes : after.writes = kernel.writes
  banks : ∀ thread bank, (after.threads thread).bank bank = (kernel.threads thread).bank bank
  legacy : ∀ thread, after.timesSet thread = kernel.timesSet thread →
    (after.threads thread).legacy = (kernel.threads thread).legacy

theorem Continues.refl (kernel : SimulatedKernel) : kernel.Continues kernel :=
  ⟨List.prefix_rfl, rfl, fun _ _ => rfl, fun _ _ => rfl⟩

theorem Continues.timesSet_le {kernel after : SimulatedKernel} (continued : kernel.Continues after)
    (thread : ThreadId) : kernel.timesSet thread ≤ after.timesSet thread :=
  continued.calls.sublist.count_le _

theorem Continues.trans {kernel middle after : SimulatedKernel} (first : kernel.Continues middle)
    (second : middle.Continues after) : kernel.Continues after where
  calls := first.calls.trans second.calls
  writes := second.writes.trans first.writes
  banks thread bank := (second.banks thread bank).trans (first.banks thread bank)
  legacy thread same := by
    have early := first.timesSet_le thread
    have late := second.timesSet_le thread
    exact (second.legacy thread (by omega)).trans (first.legacy thread (by omega))

/-- `after` has the registers of `kernel`, and no data breakpoint register was set
in between. -/
structure Idles (kernel after : SimulatedKernel) : Prop where
  threads : after.threads = kernel.threads
  timesSet : ∀ thread, after.timesSet thread = kernel.timesSet thread
  nextHandle : after.nextHandle = kernel.nextHandle

theorem Idles.refl (kernel : SimulatedKernel) : kernel.Idles kernel :=
  ⟨rfl, fun _ => rfl, rfl⟩

theorem Idles.trans {kernel middle after : SimulatedKernel} (first : kernel.Idles middle)
    (second : middle.Idles after) : kernel.Idles after :=
  ⟨second.threads.trans first.threads,
    fun thread => (second.timesSet thread).trans (first.timesSet thread),
    second.nextHandle.trans first.nextHandle⟩

section Calls

variable {kernel after : SimulatedKernel} {call : KernelCall} {thread : ThreadId}
  {error : Option KernelError}

theorem Enters.continues (entered : kernel.Enters call thread error after) :
    kernel.Continues after where
  calls := entered.calls ▸ List.prefix_append _ _
  writes := entered.writes
  banks _ _ := by rw [entered.threads]
  legacy _ _ := by rw [entered.threads]

theorem Enters.timesSet_eq (entered : kernel.Enters call thread error after)
    (other : call ≠ .writeLegacy ∨ error ≠ none) (some : ThreadId) :
    after.timesSet some = kernel.timesSet some := by
  unfold timesSet
  rw [entered.calls, List.count_append, List.count_singleton]
  rcases other with call | error
  · simp [call]
  · simp [error]

theorem Enters.timesSet_of_ne (entered : kernel.Enters call thread error after) {other : ThreadId}
    (different : other ≠ thread) : after.timesSet other = kernel.timesSet other := by
  unfold timesSet
  rw [entered.calls, List.count_append, List.count_singleton]
  simp [Ne.symm different]

theorem Enters.timesSet_self (entered : kernel.Enters .writeLegacy thread none after) :
    after.timesSet thread = kernel.timesSet thread + 1 := by
  unfold timesSet
  rw [entered.calls, List.count_append, List.count_singleton_self]

theorem Enters.idles (entered : kernel.Enters call thread error after)
    (other : call ≠ .writeLegacy ∨ error ≠ none) : kernel.Idles after :=
  ⟨entered.threads, entered.timesSet_eq other, entered.nextHandle⟩

theorem continues_update (kernel : SimulatedKernel) (thread : ThreadId)
    (change : ThreadRegisters → ThreadRegisters)
    (banks : ∀ registers bank, (change registers).bank bank = registers.bank bank)
    (legacy : ∀ registers, (change registers).legacy = registers.legacy) :
    kernel.Continues (kernel.update thread change) := by
  refine ⟨List.prefix_rfl, rfl, fun other bank => ?_, fun other _ => ?_⟩ <;>
    by_cases here : other = thread
  · rw [here, threads_update_self, banks]
  · rw [threads_update_of_ne _ _ here]
  · rw [here, threads_update_self, legacy]
  · rw [threads_update_of_ne _ _ here]

theorem continues_withRegistration (kernel : SimulatedKernel) (thread : ThreadId)
    (point : EncodedPoint) : kernel.Continues (kernel.withRegistration thread point) := by
  have added := kernel.continues_update thread
    (fun registers =>
      { registers with
        registrations := registers.registrations ++ [(kernel.nextHandle, ⟨point, .ofPoint point⟩)] })
    (fun _ bank => by cases bank <;> rfl) (fun _ => rfl)
  exact ⟨added.calls, added.writes, added.banks, added.legacy⟩

theorem continues_withoutRegistration (kernel : SimulatedKernel) (thread : ThreadId)
    (number : Int) : kernel.Continues (kernel.withoutRegistration thread number) :=
  kernel.continues_update thread _ (fun _ bank => by cases bank <;> rfl) (fun _ => rfl)

theorem bank_withLegacy (kernel : SimulatedKernel) (thread : ThreadId) (value : UInt64)
    (other : ThreadId) (bank : RegisterBank) :
    ((kernel.withLegacy thread value).threads other).bank bank = (kernel.threads other).bank bank := by
  unfold withLegacy
  by_cases here : other = thread
  · subst here
    rw [threads_update_self]
    cases bank <;> rfl
  · rw [threads_update_of_ne _ _ here]

/-- Changes of points leave banks alone, and what they do to data breakpoint
registers is on record. -/
theorem acrossChanges_continues : AcrossChanges SimulatedKernel.Continues := by
  refine acrossChanges_of_effects .refl .trans (fun entered _ => entered.continues) continues_withRegistration
    continues_withoutRegistration ?_
  intro kernel after thread value entered
  have begun := entered.continues
  refine ⟨begun.calls, begun.writes, fun other bank => ?_, fun other same => ?_⟩
  · exact (bank_withLegacy _ _ _ _ _).trans (begun.banks other bank)
  · by_cases here : other = thread
    · subst here
      have counted : kernel.timesSet other + 1 = kernel.timesSet other :=
        entered.timesSet_self.symm.trans same
      omega
    · unfold withLegacy
      rw [threads_update_of_ne _ _ here, entered.threads]

end Calls

def IsNumbered (kernel : SimulatedKernel) : Prop :=
  ∀ thread, ∀ entry ∈ (kernel.threads thread).registrations, entry.1 < kernel.nextHandle

theorem IsNumbered.fewer {kernel after : SimulatedKernel} (numbered : kernel.IsNumbered)
    (next : after.nextHandle = kernel.nextHandle)
    (fewer : ∀ thread,
      (after.threads thread).registrations.Sublist (kernel.threads thread).registrations) :
    after.IsNumbered :=
  fun thread entry member => next.symm ▸ numbered thread entry ((fewer thread).subset member)

theorem IsNumbered.withRegistration {kernel : SimulatedKernel} (numbered : kernel.IsNumbered)
    (thread : ThreadId) (point : EncodedPoint) :
    (kernel.withRegistration thread point).IsNumbered := by
  intro other entry member
  have next : (kernel.withRegistration thread point).nextHandle = kernel.nextHandle + 1 := rfl
  by_cases here : other = thread
  · subst here
    rw [registrations_withRegistration_self] at member
    rcases List.mem_append.mp member with before | added
    · have low := numbered other entry before
      omega
    · rw [List.mem_singleton.mp added]
      omega
  · rw [registrations_withRegistration_of_ne _ _ here] at member
    have low := numbered other entry member
    omega

theorem acrossCalls_numbered :
    AcrossCalls fun kernel after : SimulatedKernel => kernel.IsNumbered → after.IsNumbered := by
  have enters : ∀ {kernel after : SimulatedKernel} {call thread error},
      kernel.Enters call thread error after → kernel.IsNumbered → after.IsNumbered :=
    fun entered numbered => numbered.fewer entered.nextHandle fun _ =>
      entered.threads ▸ List.Sublist.refl _
  refine acrossCalls_of_effects (acrossChanges_of_effects (fun _ => id)
    (fun first second => second ∘ first) (fun entered _ => enters entered) ?_ ?_ ?_) enters ?_
  · exact fun kernel thread point numbered => numbered.withRegistration thread point
  · intro kernel thread number numbered
    have fewer := kernel.controlled_update thread
      (fun registers => registers.drop number) fun _ => List.filter_sublist
    exact numbered.fewer fewer.nextHandle fewer.registrations
  · intro kernel after thread value entered numbered
    have same := after.controlled_update thread
      (fun registers => { registers with legacy := value }) fun _ => List.Sublist.refl _
    exact (enters entered numbered).fewer same.nextHandle same.registrations
  · intro kernel thread bank block numbered
    have same := kernel.controlled_update thread
      (fun registers => registers.setBank block bank) fun registers => by
        cases bank <;> exact List.Sublist.refl _
    exact numbered.fewer same.nextHandle same.registrations

end SimulatedKernel

namespace Session

theorem keptByEvents_numbered :
    KeptByEvents fun session : Session SimulatedKernel => session.kernel.IsNumbered where
  probe numbered := SimulatedKernel.acrossCalls_numbered.capabilities _ numbered
  quiet numbered _ := numbered
  insertDemand numbered demand := SimulatedKernel.acrossCalls_numbered.insertDemand _ demand numbered
  removeDemand numbered demand := SimulatedKernel.acrossCalls_numbered.removeDemand _ demand numbered
  addThread numbered thread := SimulatedKernel.acrossCalls_numbered.addThread _ thread numbered
  removeThread numbered thread := SimulatedKernel.acrossCalls_numbered.removeThread _ thread numbered
  prepareToResume numbered thread :=
    SimulatedKernel.acrossCalls_numbered.prepareToResume _ thread numbered
  stoppedAt numbered thread := SimulatedKernel.acrossCalls_numbered.stoppedAt _ thread numbered
  control numbered _ controlled := numbered.fewer controlled.nextHandle controlled.registrations

theorem isNumbered_of_leads {kernel : SimulatedKernel} {leader : ThreadId} {settings : Settings}
    {capabilities? : Option Capabilities}
    (bare : ∀ thread, (kernel.threads thread).registrations = []) {history : History}
    (reached : History.Leads (fun _ _ => True)
      (.ofSession (.start kernel leader settings capabilities?)) history) :
    history.session.kernel.IsNumbered := by
  refine reached.kept keptByEvents_numbered fun thread entry member => ?_
  change entry ∈ (kernel.threads thread).registrations at member
  rw [bare thread] at member
  cases member

end Session

end DebugRegisters
