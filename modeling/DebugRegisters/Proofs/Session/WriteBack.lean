import DebugRegisters.Proofs.Session.Following
import DebugRegisters.Proofs.Session.WriteBack.Steps

/-!
# Register arrays are written back

Over every history on a kernel with register arrays, whatever fails: a bank that
is not marked holds exactly what its table says. A thread that was made ready to
resume has no marked bank, so making it ready again writes nothing.
-/

set_option autoImplicit false

namespace DebugRegisters

namespace Session

section Clean

variable {κ : Type} [Kernel κ] {session after : Session κ} {thread : ThreadId} {bank : RegisterBank}

theorem not_isDirty_of_written
    (attempted : Attempts session thread bank (.ok (), after)) : ¬after.IsDirty thread bank := by
  cases attempted with
  | written wrote =>
      rintro ⟨points, found, dirty⟩
      change (session.sets.update thread fun points => points.clearDirty bank).get? thread =
        some points at found
      rw [ThreadSets.get?_update_self fun points => ThreadPoints.thread_clearDirty points bank]
        at found
      obtain ⟨before, _, rfl⟩ := Option.map_eq_some_iff.mp found
      exact dirty (ThreadPoints.dirty_clearDirty_self before bank)

theorem not_isDirty_of_flushBank (flushed : session.flushBank thread bank = (.ok (), after)) :
    ¬after.IsDirty thread bank := by
  have cases := flushes session thread bank
  rw [flushed] at cases
  cases cases with
  | clean settled => exact settled
  | once dirty attempted => exact not_isDirty_of_written attempted
  | twice dirty watched capable wrote attempted =>
      subst watched
      exact not_isDirty_of_written attempted

theorem attempts_keeps_breakpoints {outcome : Outcome κ Unit}
    (attempted : Attempts session thread .watchpoints outcome)
    (clean : ¬session.IsDirty thread .breakpoints) : ¬outcome.2.IsDirty thread .breakpoints := by
  cases attempted with
  | failed wrote => exact clean
  | written wrote =>
      rintro ⟨points, found, dirty⟩
      change (session.sets.update thread fun points => points.clearDirty .watchpoints).get? thread =
        some points at found
      rw [ThreadSets.get?_update_self fun points =>
        ThreadPoints.thread_clearDirty points .watchpoints] at found
      obtain ⟨before, there, rfl⟩ := Option.map_eq_some_iff.mp found
      rw [ThreadPoints.dirty_clearDirty_of_ne _ (by decide)] at dirty
      exact clean ⟨before, there, dirty⟩

/-- Writing the watchpoints leaves no breakpoint to be written, not even where
all watchpoints are restricted for it. -/
theorem flushBank_keeps_breakpoints (clean : ¬session.IsDirty thread .breakpoints) :
    ¬(session.flushBank thread .watchpoints).2.IsDirty thread .breakpoints := by
  have flushed := flushes session thread .watchpoints
  generalize session.flushBank thread .watchpoints = outcome at flushed
  cases flushed with
  | clean settled => exact clean
  | once dirty attempted => exact attempts_keeps_breakpoints attempted clean
  | @twice kernel _ dirty watched capable wrote attempted =>
      refine attempts_keeps_breakpoints attempted ?_
      rintro ⟨points, found, dirty⟩
      rw [sets_restrictTo, ThreadSets.get?_map fun points =>
        ThreadPoints.thread_restrict points _] at found
      obtain ⟨before, there, rfl⟩ := Option.map_eq_some_iff.mp found
      rw [ThreadPoints.dirty_restrict_breakpoints] at dirty
      exact clean ⟨before, there, dirty⟩

/-- A thread whose banks were all written has none left to be written. -/
theorem not_isDirty_of_flushBanks
    (flushed : session.flushBanks thread RegisterBank.all = (.ok (), after)) (bank : RegisterBank) :
    ¬after.IsDirty thread bank := by
  unfold RegisterBank.all flushBanks at flushed
  split at flushed
  · cases flushed
  · next middle first =>
      have breakpoints := not_isDirty_of_flushBank first
      have kept := flushBank_keeps_breakpoints breakpoints
      unfold flushBanks at flushed
      split at flushed
      · cases flushed
      · next last second =>
          cases flushed
          rw [second] at kept
          cases bank with
          | breakpoints => exact kept
          | watchpoints => exact not_isDirty_of_flushBank second

theorem flushBanks_of_clean (clean : ∀ bank, ¬session.IsDirty thread bank)
    (banks : List RegisterBank) : session.flushBanks thread banks = (.ok (), session) := by
  induction banks with
  | nil => rfl
  | cons bank rest ih =>
      unfold flushBanks
      rw [flushBank_of_clean (clean bank)]
      exact ih

/-- A thread that was made ready to resume needs nothing more. -/
theorem prepareToResume_again (prepared : session.prepareToResume thread = (.ok (), after)) :
    after.prepareToResume thread = (.ok (), after) := by
  have known : after.capabilities? = some session.capabilities.1 := by
    have basis := (prepareToResume_basis session thread).1
    rw [prepared] at basis
    exact basis.capabilities?
  unfold prepareToResume at prepared ⊢
  rw [capabilities_of_known known]
  dsimp only at prepared ⊢
  split at prepared
  · next interface =>
      rw [if_pos interface]
      exact flushBanks_of_clean (not_isDirty_of_flushBanks prepared) RegisterBank.all
  · next interface => rw [if_neg interface]

end Clean

namespace WrittenBack

variable {caps : Capabilities} {exited : List ThreadId} {session : Session SimulatedKernel}

theorem probe (written : session.WrittenBack caps exited) :
    session.capabilities.2.WrittenBack caps exited := by
  have other : session.kernel.facility ≠ .legacy := by
    obtain ⟨_, _, arrays⟩ := written.arrays
    rw [arrays]
    exact nofun
  exact written.quiet rfl rfl (capabilities_keeps other).sameBanks

theorem insertDemand (written : session.WrittenBack session.capabilities.1 exited)
    (demand : Demand) : (session.insertDemand demand).2.WrittenBack session.capabilities.1 exited :=
  insertDemand_keeps (keptByChanges session.capabilities.1 exited) written.probe demand

theorem removeDemand (written : session.WrittenBack session.capabilities.1 exited)
    (demand : Demand) : (session.removeDemand demand).2.WrittenBack session.capabilities.1 exited :=
  removeDemand_keeps (keptByChanges session.capabilities.1 exited) written.probe demand

theorem prepareToResume (written : session.WrittenBack session.capabilities.1 exited)
    (thread : ThreadId) :
    (session.prepareToResume thread).2.WrittenBack session.capabilities.1 exited := by
  unfold Session.prepareToResume
  dsimp only
  split
  · exact written.probe.flushBanks thread RegisterBank.all
  · exact written.probe

theorem isClean_prepareToResume (written : session.WrittenBack session.capabilities.1 exited)
    {thread : ThreadId} {after : Session SimulatedKernel}
    (prepared : session.prepareToResume thread = (.ok (), after)) {points : ThreadPoints}
    (found : after.sets.get? thread = some points) (bank : RegisterBank) : points.IsClean bank := by
  have later := written.prepareToResume thread
  rw [prepared] at later
  unfold Session.prepareToResume at prepared
  dsimp only at prepared
  split at prepared
  · refine .inl (Decidable.byContradiction fun dirty => ?_)
    exact not_isDirty_of_flushBanks prepared bank ⟨points, found, dirty⟩
  · next interface =>
      have nothing := later.deferred.resolve_left interface
      refine .inr ?_
      rw [later.sized.get? found bank, later.supported.slots_of_unavailable nothing]

theorem addThread (written : session.WrittenBack session.capabilities.1 exited)
    {thread : ThreadId} (fresh : thread ∉ exited) :
    (session.addThread thread).2.WrittenBack session.capabilities.1 exited := by
  have announced : (session.announce thread).WrittenBack session.capabilities.1 exited :=
    written.probe.quiet rfl rfl (.refl _)
  have model : ∀ points, session.pattern? thread = some points → ∀ bank,
      (points.table bank).capacity = session.capabilities.1.slots bank := by
    intro points given
    exact written.sized.last? (Option.filter_eq_some_iff.mp given).1
  have equipped := (announced.equip model thread).2
  rw [addThread_eq]
  split
  · next failed =>
      rw [failed] at equipped
      exact equipped
  · next after done =>
      rw [done] at equipped
      have shown := sameProcess_showRegisters (after.follow thread) "new thread"
      refine (equipped.follow fresh).quiet ?_ shown.threads ?_
      · unfold showRegisters
        split <;> rfl
      · unfold showRegisters
        split <;> exact .refl _

theorem vanish (written : session.WrittenBack caps exited) (thread : ThreadId) :
    (session.control fun kernel => kernel.removeThread thread).WrittenBack caps exited := by
  refine ⟨written.arrays, written.supported, written.sized, written.staying,
    fun other staying there => ?_⟩
  have kept : other ≠ thread ∧ other ∉ session.kernel.vanished := by
    simp only [control, SimulatedKernel.removeThread, SimulatedKernel.update] at there
    split at there
    · next gone => exact ⟨fun same => there (same ▸ gone), there⟩
    · exact ⟨fun same => there (same ▸ List.mem_cons_self),
        fun gone => there (List.mem_cons_of_mem _ gone)⟩
  have armed : (session.kernel.removeThread thread).armed other = session.kernel.armed other := by
    funext bank
    unfold SimulatedKernel.armed SimulatedKernel.removeThread
    rw [SimulatedKernel.threads_update_of_ne _ _ kept.1]
  have settled := written.settled other staying kept.2
  rwa [← armed] at settled

end WrittenBack

end Session

namespace SimulatedKernel

structure UnusedArrays (kernel : SimulatedKernel) : Prop where
  arrays : ∃ breakpoints watchpoints, kernel.facility = .arrays breakpoints watchpoints
  bare : ∀ thread bank, kernel.armed thread bank = []

theorem setTrap_sameBanks (kernel : SimulatedKernel) (thread : ThreadId) (trap : Trap) :
    kernel.SameBanks (kernel.setTrap thread trap) := by
  have kept : ∀ (registers : ThreadRegisters) (bank : RegisterBank),
      ThreadRegisters.bank { registers with trap := some trap } bank = registers.bank bank :=
    fun _ bank => by cases bank <;> rfl
  exact sameBanks_update kernel thread kept

theorem trigger_sameBanks (kernel : SimulatedKernel) (thread : ThreadId) (handle : SlotHandle)
    (address : Address) : kernel.SameBanks (kernel.trigger thread handle address) := by
  have trapped := kernel.setTrap_sameBanks thread ⟨true, address, some handle.number⟩
  have dropped : ∀ (registers : ThreadRegisters) (bank : RegisterBank),
      (registers.drop handle.number).bank bank = registers.bank bank :=
    fun _ bank => by cases bank <;> rfl
  unfold trigger
  dsimp only
  split
  · exact trapped.trans (sameBanks_update _ thread dropped)
  · exact trapped

end SimulatedKernel

namespace History

def WrittenBack (history : History) : Prop :=
  history.session.HoldsFor fun caps session => session.WrittenBack caps history.exited

variable {history : History}

theorem writtenBack_start {kernel : SimulatedKernel} {leader : ThreadId} {settings : Settings}
    {capabilities? : Option Capabilities} (unused : kernel.UnusedArrays)
    (preset : ∀ caps, capabilities? = some caps → kernel.facility.Supports caps) :
    (ofSession (.start kernel leader settings capabilities?)).WrittenBack where
  supported := preset
  holds caps supported _ := by
    refine ⟨unused.arrays, supported, ThreadSets.all_empty, fun _ _ => List.not_mem_nil,
      fun thread _ _ => ?_⟩
    exact ThreadPoints.settledWith_empty thread caps (unused.bare thread)

/-- Every event keeps banks and tables together, unless the number of an exited
thread is taken again. -/
theorem WrittenBack.after (written : history.WrittenBack) {event : Event}
    (fresh : NoReuse history event) : (history.after event).WrittenBack := by
  have current := Session.HoldsFor.current written
  have probed : history.session.capabilities.2.capabilities? =
      some history.session.capabilities.1 := rfl
  have operated : ∀ {after : Session SimulatedKernel} {exited : List ThreadId},
      history.session.capabilities.2.SameBasis after →
      after.WrittenBack history.session.capabilities.1 exited →
      after.HoldsFor fun caps session => session.WrittenBack caps exited :=
    fun basis kept => Session.holdsFor_of_known (basis.capabilities?.trans probed) kept.supported kept
  have controlled : ∀ change : SimulatedKernel → SimulatedKernel,
      history.session.kernel.SameBanks (change history.session.kernel) →
      (history.session.control change).HoldsFor fun caps session =>
        session.WrittenBack caps history.exited :=
    fun change same => Session.HoldsFor.change written same.facility rfl fun _ kept =>
      kept.quiet rfl rfl same
  cases event with
  | insert demand =>
      exact operated (Session.insertDemand_sameProcess _ demand).sameBasis
        (current.insertDemand demand)
  | remove demand =>
      exact operated (Session.removeDemand_sameProcess _ demand).sameBasis
        (current.removeDemand demand)
  | newThread thread =>
      exact operated (Session.addThread_basis _ thread) (current.addThread fresh)
  | exit thread =>
      have same := Session.removeThread_sameTables history.session thread
      have facility := (Session.removeThread_sameBanks history.session thread).facility
      refine ⟨fun caps known => facility ▸ written.supported caps (same.capabilities? ▸ known),
        fun caps supported only => ?_⟩
      exact (written.holds caps (facility ▸ supported) fun known there =>
        only known (same.capabilities?.trans there)).removeThread thread
  | resume thread =>
      exact operated (Session.prepareToResume_basis _ thread).1 (current.prepareToResume thread)
  | stop thread =>
      obtain ⟨same, keeps⟩ := Session.stoppedAt_sameTables history.session thread
      exact operated same.sameBasis (current.probe.quiet same.sets same.threads keeps.sameBanks)
  | probe => exact operated (.refl _) current.probe
  | askRange address length =>
      change (history.session.canWatch address length).2.HoldsFor _
      unfold Session.canWatch
      split
      · exact written
      · exact operated (.refl _) current.probe
  | askMask address mask =>
      change (history.session.maskedWatchRegisters address mask).2.HoldsFor _
      unfold Session.maskedWatchRegisters
      dsimp only
      split
      · exact operated (.refl _) current.probe
      · split
        · exact operated (.notify _ _) (current.probe.quiet rfl rfl (.refl _))
        · exact operated (.refl _) current.probe
  | fail failure =>
      exact controlled (fun kernel => kernel.failNext failure.call failure.thread failure.error)
        ⟨rfl, rfl, rfl⟩
  | vanish thread => exact Session.HoldsFor.change written rfl rfl fun _ kept => kept.vanish thread
  | trap thread trap =>
      exact controlled (fun kernel => kernel.setTrap thread trap)
        (SimulatedKernel.setTrap_sameBanks _ thread trap)
  | trigger thread handle address =>
      exact controlled (fun kernel => kernel.trigger thread handle address)
        (SimulatedKernel.trigger_sameBanks _ thread handle address)
  | clearRecords => exact controlled SimulatedKernel.clearRecords ⟨rfl, rfl, rfl⟩

theorem Leads.writtenBack {start history : History} (reached : Leads NoReuse start history)
    (written : start.WrittenBack) : history.WrittenBack := by
  induction reached with
  | start => exact written
  | step before permitted ih => exact ih.after permitted

/-- On a kernel with register arrays, whatever operations are asked for and
whichever calls fail: a bank that is not marked holds exactly the armed pairs of
its table, on every tracked thread that has points and is not lost. After a
thread was made ready to resume, both its banks agree with their tables, and
making it ready once more changes nothing at all. -/
theorem banks_agree_with_tables {kernel : SimulatedKernel} {leader : ThreadId}
    {settings : Settings} {capabilities? : Option Capabilities} (unused : kernel.UnusedArrays)
    (preset : ∀ caps, capabilities? = some caps → kernel.facility.Supports caps)
    {history : History}
    (reached : Leads NoReuse (ofSession (.start kernel leader settings capabilities?)) history)
    {thread : ThreadId} (tracked : thread ∈ history.session.threads)
    (there : thread ∉ history.session.kernel.vanished) :
    (∀ points, history.session.sets.get? thread = some points →
      ∀ bank, points.dirty bank = 0 →
        history.session.kernel.armed thread bank = (points.table bank).registerBlock.enabled) ∧
    ∀ after, history.session.prepareToResume thread = (.ok (), after) →
      (∀ points, after.sets.get? thread = some points →
        ∀ bank, after.kernel.armed thread bank = (points.table bank).registerBlock.enabled) ∧
      after.prepareToResume thread = (.ok (), after) := by
  have written := reached.writtenBack (writtenBack_start unused preset)
  have current := Session.HoldsFor.current written
  have staying := current.staying thread tracked
  constructor
  · intro points found bank clean
    have settled := current.settled thread staying there
    rw [Session.pointsOf, found] at settled
    exact settled bank (.inl clean)
  · intro after prepared
    refine ⟨fun points found bank => ?_, Session.prepareToResume_again prepared⟩
    have later := current.prepareToResume thread
    rw [prepared] at later
    have follows := Session.prepareToResume_follows history.session thread
    rw [prepared] at follows
    have settled := later.settled thread staying (follows.vanished ▸ there)
    rw [Session.pointsOf, found] at settled
    exact settled bank (current.isClean_prepareToResume prepared found bank)

/-- A new thread takes the rejection of its first write, and is written later. -/
theorem banks_agree_with_tables_rejection :
    let history := (ofSession (.start (.withArrays 2 2) ⟨1⟩ .standard none)).afterAll
      [.insert (.plain (.watch .write ⟨0x1003⟩ 4)), .fail ⟨.writeRegisters, none, .rejected⟩,
        .newThread ⟨2⟩, .resume ⟨2⟩]
    (history.session.prepareToResume ⟨2⟩).1 = .ok () ∧
    (∀ points, history.session.sets.get? ⟨2⟩ = some points →
      ∀ bank, points.dirty bank = 0 →
        history.session.kernel.armed ⟨2⟩ bank = (points.table bank).registerBlock.enabled) ∧
    ∀ after, history.session.prepareToResume ⟨2⟩ = (.ok (), after) →
      (∀ points, after.sets.get? ⟨2⟩ = some points →
        ∀ bank, after.kernel.armed ⟨2⟩ bank = (points.table bank).registerBlock.enabled) ∧
      after.prepareToResume ⟨2⟩ = (.ok (), after) := by
  have unused : (SimulatedKernel.withArrays 2 2).UnusedArrays :=
    ⟨⟨_, _, rfl⟩, fun _ bank => by cases bank <;> rfl⟩
  refine ⟨by decide, ?_⟩
  exact banks_agree_with_tables unused (fun _ known => by cases known)
    (leads_afterAll .start (by decide)) (by decide) (by decide)

end History

end DebugRegisters
