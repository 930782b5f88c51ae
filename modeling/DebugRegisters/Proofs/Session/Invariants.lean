import DebugRegisters.Proofs.Session.Accounting.Threads
import DebugRegisters.Proofs.Session.Following

/-!
# What every event keeps

An invariant of sessions is shown for each operation once, and then holds after
every history. Questions and the controls of the simulation are dealt with here:
they touch nothing but the kernel, what is known of it and the reports.

An invariant may depend on the capabilities. While they are not known, it has to
hold for all that may be found.
-/

set_option autoImplicit false

namespace DebugRegisters

structure SimulatedKernel.Controlled (kernel after : SimulatedKernel) : Prop where
  facility : after.facility = kernel.facility
  nextHandle : after.nextHandle = kernel.nextHandle
  registrations : ∀ thread,
    (after.threads thread).registrations.Sublist (kernel.threads thread).registrations

namespace SimulatedKernel

theorem Controlled.of_threads {kernel after : SimulatedKernel}
    (facility : after.facility = kernel.facility) (nextHandle : after.nextHandle = kernel.nextHandle)
    (threads : after.threads = kernel.threads) : kernel.Controlled after :=
  ⟨facility, nextHandle, fun _ => threads ▸ List.Sublist.refl _⟩

theorem Controlled.trans {kernel middle after : SimulatedKernel} (first : kernel.Controlled middle)
    (second : middle.Controlled after) : kernel.Controlled after where
  facility := second.facility.trans first.facility
  nextHandle := second.nextHandle.trans first.nextHandle
  registrations thread := (second.registrations thread).trans (first.registrations thread)

theorem controlled_update (kernel : SimulatedKernel) (thread : ThreadId)
    (change : ThreadRegisters → ThreadRegisters)
    (fewer : ∀ registers, (change registers).registrations.Sublist registers.registrations) :
    kernel.Controlled (kernel.update thread change) := by
  refine ⟨rfl, rfl, fun other => ?_⟩
  by_cases here : other = thread
  · subst here
    rw [threads_update_self]
    exact fewer _
  · rw [threads_update_of_ne _ _ here]

theorem controlled_setTrap (kernel : SimulatedKernel) (thread : ThreadId) (trap : Trap) :
    kernel.Controlled (kernel.setTrap thread trap) :=
  controlled_update kernel thread _ fun _ => List.Sublist.refl _

theorem controlled_trigger (kernel : SimulatedKernel) (thread : ThreadId) (handle : SlotHandle)
    (address : Address) : kernel.Controlled (kernel.trigger thread handle address) := by
  have stopped := kernel.controlled_setTrap thread ⟨true, address, some handle.number⟩
  unfold trigger
  dsimp only
  split
  · exact stopped.trans (controlled_update _ thread _ fun _ => List.filter_sublist)
  · exact stopped

theorem controlled_removeThread (kernel : SimulatedKernel) (thread : ThreadId) :
    kernel.Controlled (kernel.removeThread thread) := by
  have reset := kernel.controlled_update thread (fun _ => .initial) fun _ => List.nil_sublist _
  exact ⟨reset.facility, reset.nextHandle, reset.registrations⟩

end SimulatedKernel

namespace Session

structure KeptByQuestions (kept : Session SimulatedKernel → Prop) : Prop where
  probe {session : Session SimulatedKernel} (before : kept session) : kept session.capabilities.2
  quiet {session : Session SimulatedKernel} (before : kept session) (reports : List Notice) :
    kept { session with notices := session.notices ++ reports }

theorem KeptByQuestions.canWatch {kept : Session SimulatedKernel → Prop}
    (principle : KeptByQuestions kept) {session : Session SimulatedKernel} (before : kept session)
    (address : Address) (length : UInt64) : kept (session.canWatch address length).2 := by
  unfold Session.canWatch
  split
  · exact before
  · exact principle.probe before

theorem KeptByQuestions.maskedWatchRegisters {kept : Session SimulatedKernel → Prop}
    (principle : KeptByQuestions kept) {session : Session SimulatedKernel} (before : kept session)
    (address : Address) (mask : UInt64) : kept (session.maskedWatchRegisters address mask).2 := by
  unfold Session.maskedWatchRegisters
  dsimp only
  split
  · exact principle.probe before
  · split
    · exact principle.quiet (principle.probe before) _
    · exact principle.probe before

structure KeptBesidesInsertion (kept : Session SimulatedKernel → Prop) : Prop
    extends KeptByQuestions kept where
  removeDemand {session : Session SimulatedKernel} (before : kept session) (demand : Demand) :
    kept (session.removeDemand demand).2
  addThread {session : Session SimulatedKernel} (before : kept session) (thread : ThreadId) :
    kept (session.addThread thread).2
  removeThread {session : Session SimulatedKernel} (before : kept session) (thread : ThreadId) :
    kept (session.removeThread thread)
  prepareToResume {session : Session SimulatedKernel} (before : kept session) (thread : ThreadId) :
    kept (session.prepareToResume thread).2
  stoppedAt {session : Session SimulatedKernel} (before : kept session) (thread : ThreadId) :
    kept (session.stoppedAt thread).2
  control {session : Session SimulatedKernel} (before : kept session) {kernel : SimulatedKernel}
    (controlled : session.kernel.Controlled kernel) : kept { session with kernel }

/-- A property of sessions that no event breaks. -/
structure KeptByEvents (kept : Session SimulatedKernel → Prop) : Prop
    extends KeptBesidesInsertion kept where
  insertDemand {session : Session SimulatedKernel} (before : kept session) (demand : Demand) :
    kept (session.insertDemand demand).2

theorem KeptBesidesInsertion.perform {kept : Session SimulatedKernel → Prop}
    (principle : KeptBesidesInsertion kept) {session : Session SimulatedKernel}
    (before : kept session) (event : Event)
    (inserted : ∀ demand, event = .insert demand → kept (session.insertDemand demand).2) :
    kept (session.perform event).2 := by
  cases event with
  | insert demand => exact inserted demand rfl
  | remove demand => exact principle.removeDemand before demand
  | newThread thread => exact principle.addThread before thread
  | exit thread => exact principle.removeThread before thread
  | resume thread => exact principle.prepareToResume before thread
  | stop thread => exact principle.stoppedAt before thread
  | probe => exact principle.probe before
  | askRange address length => exact principle.canWatch before address length
  | askMask address mask => exact principle.maskedWatchRegisters before address mask
  | fail failure => exact principle.control before (.of_threads rfl rfl rfl)
  | vanish thread => exact principle.control before (session.kernel.controlled_removeThread thread)
  | trap thread trap => exact principle.control before (session.kernel.controlled_setTrap thread trap)
  | trigger thread handle address =>
      exact principle.control before (session.kernel.controlled_trigger thread handle address)
  | clearRecords => exact principle.control before (.of_threads rfl rfl rfl)

section Resuming

variable {κ : Type}

structure KeptByResuming (holds : Session κ → Prop) : Prop where
  call {session : Session κ} (kept : holds session) (kernel : κ) : holds { session with kernel }
  markWritten {session : Session κ} (kept : holds session) (thread : ThreadId)
    (bank : RegisterBank) : holds (session.markWritten thread bank)
  restrictTo {session : Session κ} (kept : holds session)
    (capable : session.restriction.state = .capable) :
    holds (session.restrictTo { session.restriction with state := .degraded })

namespace KeptByResuming

variable [Kernel κ] {holds : Session κ → Prop} {session : Session κ}

theorem attempts (principle : KeptByResuming holds) (kept : holds session) {thread : ThreadId}
    {bank : RegisterBank} {outcome : Outcome κ Unit}
    (attempted : Attempts session thread bank outcome) : holds outcome.2 := by
  cases attempted with
  | written wrote => exact principle.markWritten (principle.call kept _) thread bank
  | failed wrote => exact principle.call kept _

theorem flushBank (principle : KeptByResuming holds) (kept : holds session) (thread : ThreadId)
    (bank : RegisterBank) : holds (session.flushBank thread bank).2 := by
  have flushed := flushes session thread bank
  generalize session.flushBank thread bank = outcome at flushed
  cases flushed with
  | clean settled => exact kept
  | once dirty attempted => exact principle.attempts kept attempted
  | @twice kernel _ dirty watched capable wrote attempted =>
      have failed : holds { session with kernel } := principle.call kept kernel
      exact principle.attempts (principle.restrictTo failed capable) attempted

theorem flushBanks (principle : KeptByResuming holds) (kept : holds session) (thread : ThreadId)
    (banks : List RegisterBank) : holds (session.flushBanks thread banks).2 := by
  induction banks generalizing session with
  | nil => exact kept
  | cons bank rest ih =>
      have first := principle.flushBank kept thread bank
      unfold Session.flushBanks
      split
      · next failed => rwa [failed] at first
      · next flushed answered =>
          rw [answered] at first
          exact ih first

theorem prepareToResume (principle : KeptByResuming holds) (kept : holds session.capabilities.2)
    (thread : ThreadId) : holds (session.prepareToResume thread).2 := by
  unfold Session.prepareToResume
  dsimp only
  split
  · exact principle.flushBanks kept thread RegisterBank.all
  · exact kept

end KeptByResuming

end Resuming

section Found

/-- A property that may depend on the capabilities and otherwise on nothing but
the threads, their sets and the restriction, kept by the operations on a kernel
with the given registers, apart from insertion. -/
structure KeptByOtherOperations (facility : Facility)
    (holds : Capabilities → Session SimulatedKernel → Prop) : Prop where
  congr {caps : Capabilities} {session after : Session SimulatedKernel} (kept : holds caps session)
    (sets : after.sets = session.sets) (threads : after.threads = session.threads)
    (restriction : after.restriction = session.restriction) : holds caps after
  removeDemand {session : Session SimulatedKernel}
    (supported : facility.Supports session.capabilities.1)
    (kept : holds session.capabilities.1 session.capabilities.2) (demand : Demand) :
    holds session.capabilities.1 (session.removeDemand demand).2
  addThread {session : Session SimulatedKernel} (supported : facility.Supports session.capabilities.1)
    (kept : holds session.capabilities.1 session.capabilities.2) (thread : ThreadId) :
    holds session.capabilities.1 (session.addThread thread).2
  prepareToResume {session : Session SimulatedKernel}
    (supported : facility.Supports session.capabilities.1)
    (kept : holds session.capabilities.1 session.capabilities.2) (thread : ThreadId) :
    holds session.capabilities.1 (session.prepareToResume thread).2
  forget {caps : Capabilities} {session : Session SimulatedKernel} (supported : facility.Supports caps)
    (kept : holds caps session) (thread : ThreadId) : holds caps (session.forget thread)

structure KeptByOperations (facility : Facility)
    (holds : Capabilities → Session SimulatedKernel → Prop) : Prop
    extends KeptByOtherOperations facility holds where
  insertDemand {session : Session SimulatedKernel}
    (supported : facility.Supports session.capabilities.1)
    (kept : holds session.capabilities.1 session.capabilities.2) (demand : Demand) :
    holds session.capabilities.1 (session.insertDemand demand).2

/-- The kernel has the given registers, and the property holds for what is known
or may be found of them. -/
structure HoldsOn (facility : Facility) (holds : Capabilities → Session SimulatedKernel → Prop)
    (session : Session SimulatedKernel) : Prop where
  facility : session.kernel.facility = facility
  found : session.HoldsFor holds

variable {facility : Facility} {holds : Capabilities → Session SimulatedKernel → Prop}
  {session after : Session SimulatedKernel}

theorem HoldsOn.supported (all : session.HoldsOn facility holds) :
    facility.Supports session.capabilities.1 :=
  all.facility ▸ capabilities_supported all.found.supported

theorem KeptByOtherOperations.probed (principle : KeptByOtherOperations facility holds)
    (all : session.HoldsOn facility holds) : holds session.capabilities.1 session.capabilities.2 :=
  principle.congr all.found.current rfl rfl rfl

/-- What an operation leaves is known, so the property has to hold for it only. -/
theorem HoldsOn.operated (all : session.HoldsOn facility holds)
    (basis : session.capabilities.2.SameBasis after) (follows : session.kernel.Follows after.kernel)
    (kept : holds session.capabilities.1 after) : after.HoldsOn facility holds where
  facility := follows.facility.trans all.facility
  found := holdsFor_of_known basis.capabilities?
    (follows.facility ▸ capabilities_supported all.found.supported) kept

theorem HoldsOn.insertDemand (all : session.HoldsOn facility holds) {demand : Demand}
    (kept : holds session.capabilities.1 (session.insertDemand demand).2) :
    (session.insertDemand demand).2.HoldsOn facility holds :=
  all.operated (insertDemand_sameProcess _ demand).sameBasis (insertDemand_follows _ demand) kept

theorem KeptByOtherOperations.keptBesidesInsertion
    (principle : KeptByOtherOperations facility holds) :
    KeptBesidesInsertion (HoldsOn facility holds) where
  probe all := all.operated (.refl _) (capabilities_follows _) (principle.probed all)
  quiet all _ := ⟨all.facility, all.found.change rfl rfl fun _ kept => principle.congr kept rfl rfl rfl⟩
  removeDemand all demand :=
    all.operated (removeDemand_sameProcess _ demand).sameBasis (removeDemand_follows _ demand)
      (principle.removeDemand all.supported (principle.probed all) demand)
  addThread all thread :=
    all.operated (addThread_basis _ thread) (addThread_follows _ thread)
      (principle.addThread all.supported (principle.probed all) thread)
  removeThread {session} all thread := by
    have same := removeThread_sameTables session thread
    have facility := (removeThread_follows session thread).facility.trans all.facility
    refine ⟨facility, fun caps known => ?_, fun caps supported only => ?_⟩
    · have before := all.found.supported caps (same.capabilities?.symm.trans known)
      rwa [facility, ← all.facility]
    · rw [facility] at supported
      refine principle.congr (principle.forget supported ?_ thread) same.sets same.threads
        same.restriction
      exact all.found.holds caps (all.facility.symm ▸ supported) fun known there =>
        only known (same.capabilities?.trans there)
  prepareToResume all thread :=
    all.operated (prepareToResume_basis _ thread).1 (prepareToResume_follows _ thread)
      (principle.prepareToResume all.supported (principle.probed all) thread)
  stoppedAt {session} all thread := by
    obtain ⟨same, keeps⟩ := stoppedAt_sameTables session thread
    exact all.operated same.sameBasis ((capabilities_follows session).trans keeps.toFollows)
      (principle.congr (principle.probed all) same.sets same.threads same.restriction)
  control all _ controlled :=
    ⟨controlled.facility.trans all.facility,
      all.found.change controlled.facility rfl fun _ kept => principle.congr kept rfl rfl rfl⟩

theorem KeptByOperations.keptByEvents (principle : KeptByOperations facility holds) :
    KeptByEvents (HoldsOn facility holds) where
  toKeptBesidesInsertion := principle.toKeptByOtherOperations.keptBesidesInsertion
  insertDemand all demand :=
    all.insertDemand (principle.insertDemand all.supported (principle.probed all) demand)

end Found

end Session

namespace History

/-- What no event breaks unless it inserts a point holds after every history, if the
insertions that are allowed do not break it either. -/
theorem Leads.keptBesidesInsertion {kept : Session SimulatedKernel → Prop}
    (principle : Session.KeptBesidesInsertion kept) {allowed : History → Event → Prop}
    (inserted : ∀ {history : History} {demand : Demand}, allowed history (.insert demand) →
      kept history.session → kept (history.session.insertDemand demand).2)
    {start history : History} (reached : Leads allowed start history) (before : kept start.session) :
    kept history.session := by
  induction reached with
  | start => exact before
  | step _ permitted ih =>
      exact principle.perform ih _ fun demand inserts => inserted (inserts ▸ permitted) ih

/-- What no event breaks holds after every history. -/
theorem Leads.kept {kept : Session SimulatedKernel → Prop} (principle : Session.KeptByEvents kept)
    {allowed : History → Event → Prop} {start history : History}
    (reached : Leads allowed start history) (before : kept start.session) : kept history.session :=
  reached.keptBesidesInsertion principle.toKeptBesidesInsertion
    (fun _ kept => principle.insertDemand kept _) before

end History

namespace Session

section Sound

theorem sound_start {κ : Type} (kernel : κ) (leader : ThreadId) (settings : Settings)
    (capabilities? : Option Capabilities) :
    (Session.start kernel leader settings capabilities?).Sound :=
  ⟨ThreadSets.all_empty, ThreadSets.all_empty, List.nodup_nil, List.nodup_singleton leader⟩

theorem keptByResuming_sound {κ : Type} : KeptByResuming fun session : Session κ => session.Sound where
  call sound _ := sound.congr rfl rfl
  markWritten sound thread bank := sound.markWritten thread bank
  restrictTo sound _ := sound.restrictTo _

theorem keptByEvents_sound :
    KeptByEvents fun session : Session SimulatedKernel => session.Sound where
  probe sound := sound.congr rfl rfl
  quiet sound _ := sound.congr rfl rfl
  insertDemand {session} sound demand := by
    have probed : session.capabilities.2.Sound := sound.congr rfl rfl
    exact insertDemand_keeps (keptByChanges_sound _) probed demand
  removeDemand {session} sound demand := by
    have probed : session.capabilities.2.Sound := sound.congr rfl rfl
    exact removeDemand_keeps (keptByChanges_sound _) probed demand
  addThread {session} sound thread := by
    have probed : session.capabilities.2.Sound := sound.congr rfl rfl
    exact probed.addThread thread
  removeThread {session} sound thread := by
    have same := removeThread_sameTables session thread
    exact (sound.forget thread).congr same.sets same.threads
  prepareToResume sound thread :=
    keptByResuming_sound.prepareToResume (sound.congr rfl rfl) thread
  stoppedAt {session} sound thread := by
    have same := (stoppedAt_sameTables session thread).1
    exact sound.congr same.sets same.threads
  control sound _ _ := sound.congr rfl rfl

end Sound

end Session

end DebugRegisters
