import DebugRegisters.Proofs.Session.Accounting.Threads
import DebugRegisters.Proofs.Session.Following

/-!
# Reference accounting

Over every history in which only bank writes fail: whatever is outstanding can be
removed, and where nothing is outstanding every slot is free. This holds for all
interfaces, and whether or not the session goes over to its mask table meanwhile.
-/

set_option autoImplicit false

namespace DebugRegisters

namespace Session

def IsReliable {κ : Type} [Kernel κ] (caps : Capabilities) (session : Session κ) : Prop :=
  ∃ trusted : κ → Prop, Reliable caps trusted ∧ trusted session.kernel

/-- Where changes wait until a thread resumes, no kernel is asked for them. -/
theorem isReliable_of_deferred {κ : Type} [Kernel κ] {caps : Capabilities}
    (deferred : caps.interface = .registerArray ∨ caps.interface = .unavailable)
    (session : Session κ) : session.IsReliable caps := by
  refine ⟨fun _ => True, ⟨fun _ _ => trivial, fun _ _ _ => trivial, fun _ thread handle => ?_⟩,
    trivial⟩
  rw [KernelSide.giveUpSlot_of_deferred deferred]
  exact ⟨rfl, trivial⟩

theorem reliable_of_onlyWritesFail (caps : Capabilities) :
    Reliable caps fun kernel : SimulatedKernel =>
      kernel.OnlyWritesFail ∧ (caps.interface = .legacy → kernel.facility = .legacy) := by
  have later : ∀ {kernel after : SimulatedKernel}, kernel.Follows after →
      kernel.OnlyWritesFail ∧ (caps.interface = .legacy → kernel.facility = .legacy) →
      after.OnlyWritesFail ∧ (caps.interface = .legacy → after.facility = .legacy) :=
    fun follows trust => ⟨trust.1.follows follows, fun single => follows.facility.trans (trust.2 single)⟩
  refine ⟨fun trust thread => later (SimulatedKernel.pause_keeps _ thread).toFollows trust,
    fun trust thread point => later (KernelSide.takeSlot_follows caps thread _ point) trust,
    fun {side} trust thread handle =>
      ⟨?_, later (KernelSide.giveUpSlot_follows caps thread _ handle) trust⟩⟩
  unfold KernelSide.giveUpSlot
  split
  · next handle _ =>
      rcases trust.1.deregister_answer thread handle with dropped | gone
      · split
        · rfl
        · rfl
        · rfl
        · next answered =>
            rw [answered] at dropped
            cases dropped
      · split
        · rfl
        · rfl
        · rfl
        · next others _ answered =>
            rw [answered] at gone
            cases gone
            exact absurd rfl others
  · next single =>
      have written := trust.1.writeLegacy_answer (trust.2 single) thread 0
      dsimp only
      unfold KernelSide.writeLegacy
      split
      · next answered =>
          rw [answered] at written
          cases written
      · rfl
  · rfl

end Session

namespace History

/-- Only what is outstanding is removed, and some thread stays tracked. -/
def KeepsAccount (history : History) (event : Event) : Prop :=
  match event with
  | .remove demand => demand ∈ history.outstanding
  | .exit thread => ∃ other ∈ history.session.threads, other ≠ thread
  | _ => True

structure Balanced (history : History) : Prop where
  account : history.session.HoldsFor fun caps session => session.Balanced caps history.outstanding
  table : history.session.restriction.table.IsValid

variable {history : History}

theorem balanced_start {kernel : SimulatedKernel} {leader : ThreadId} {settings : Settings}
    {capabilities? : Option Capabilities}
    (preset : ∀ caps, capabilities? = some caps → kernel.facility.Supports caps)
    (valid : settings.maskTable.IsValid) :
    (ofSession (.start kernel leader settings capabilities?)).Balanced where
  account := by
    refine ⟨preset, fun caps _ _ => ⟨⟨ThreadSets.all_empty, ThreadSets.all_empty, List.nodup_nil,
      List.nodup_singleton leader⟩, List.cons_ne_nil _ _, 0, .nil, fun _ _ => rfl⟩⟩
  table := valid

theorem outstandingAfter_insert (history : History) (demand : Demand)
    (result : Except PointError Unit) :
    history.outstandingAfter (.insert demand) result =
      match result with
      | .ok () => demand :: history.outstanding
      | .error _ => history.outstanding := by
  cases result <;> rfl

theorem Balanced.after (balanced : history.Balanced) {event : Event}
    (reliable : history.session.capabilities.2.IsReliable history.session.capabilities.1)
    (kept : KeepsAccount history event) : (history.after event).Balanced := by
  obtain ⟨trusted, reliable, trust⟩ := reliable
  have current := Session.HoldsFor.current balanced.account
  have supported := Session.capabilities_supported balanced.account.supported
  have probed : history.session.capabilities.2.Balanced history.session.capabilities.1
      history.outstanding :=
    ⟨current.sound.congr rfl rfl, current.inhabited, current.ledger⟩
  have operated : ∀ {after : Session SimulatedKernel} {outstanding : List Demand}
      {exited : List ThreadId}, history.session.capabilities.2.SameBasis after →
      history.session.kernel.Follows after.kernel →
      after.Balanced history.session.capabilities.1 outstanding →
      (History.mk after outstanding exited).Balanced :=
    fun basis follows kept =>
      ⟨Session.holdsFor_of_known basis.capabilities? (follows.facility ▸ supported) kept,
        basis.table ▸ balanced.table⟩
  have controlled : ∀ change : SimulatedKernel → SimulatedKernel,
      (change history.session.kernel).facility = history.session.kernel.facility →
      (History.mk (history.session.control change) history.outstanding history.exited).Balanced :=
    fun change same =>
      ⟨balanced.account.change same rfl fun _ kept =>
        kept.sameTables ⟨⟨rfl, rfl, rfl, rfl, rfl⟩, rfl, rfl⟩, balanced.table⟩
  -- Insertions and removals move the account. A resume may restrict what is held,
  -- together with what the demands come to. All else leaves both alone.
  cases event with
  | insert demand =>
      have inserted := Session.Balanced.insertDemand reliable trust probed demand
      refine operated (Session.insertDemand_sameProcess _ demand).sameBasis
        (Session.insertDemand_follows _ demand) ?_
      exact (outstandingAfter_insert history demand _).symm ▸ inserted
  | remove demand =>
      obtain ⟨after, removed, left⟩ := Session.Balanced.removeDemand reliable trust probed kept
      have same := (Session.removeDemand_sameProcess history.session demand).sameBasis
      have follows := Session.removeDemand_follows history.session demand
      have performed : history.session.perform (.remove demand) = (.ok (), after) := removed
      rw [removed] at same follows
      unfold History.after
      rw [performed]
      exact operated same follows left
  | newThread thread =>
      exact operated (Session.addThread_basis _ thread) (Session.addThread_follows _ thread)
        (probed.addThread thread)
  | exit thread =>
      have same := Session.removeThread_sameTables history.session thread
      have facility := (Session.removeThread_follows history.session thread).facility
      refine ⟨⟨fun caps known =>
        facility ▸ balanced.account.supported caps (same.capabilities?.symm.trans known),
        fun caps supported only => ?_⟩, ?_⟩
      · exact (balanced.account.holds caps (facility ▸ supported) fun known there =>
          only known (same.capabilities?.trans there)).removeThread kept
      · have table := congrArg Restriction.table same.restriction
        exact table ▸ balanced.table
  | resume thread =>
      exact operated (Session.prepareToResume_basis _ thread).1
        (Session.prepareToResume_follows _ thread)
        (probed.prepareToResume supported.words_of_arrays balanced.table thread)
  | stop thread =>
      obtain ⟨same, keeps⟩ := Session.stoppedAt_sameTables history.session thread
      exact operated same.sameBasis ((Session.capabilities_follows _).trans keeps.toFollows)
        (probed.sameTables same)
  | probe => exact operated (.refl _) (Session.capabilities_follows _) probed
  | askRange address length =>
      change (History.mk (history.session.canWatch address length).2 _ _).Balanced
      unfold Session.canWatch
      split
      · exact ⟨balanced.account, balanced.table⟩
      · exact operated (.refl _) (Session.capabilities_follows _) probed
  | askMask address mask =>
      change (History.mk (history.session.maskedWatchRegisters address mask).2 _ _).Balanced
      unfold Session.maskedWatchRegisters
      dsimp only
      split
      · exact operated (.refl _) (Session.capabilities_follows _) probed
      · split
        · exact operated (.notify _ _) (Session.capabilities_follows _)
            (probed.sameTables (.of_kernel _ _ _))
        · exact operated (.refl _) (Session.capabilities_follows _) probed
  | fail failure =>
      exact controlled (fun kernel => kernel.failNext failure.call failure.thread failure.error) rfl
  | vanish thread => exact controlled (fun kernel => kernel.removeThread thread) rfl
  | trap thread trap => exact controlled (fun kernel => kernel.setTrap thread trap) rfl
  | trigger thread handle address =>
      exact controlled (fun kernel => kernel.trigger thread handle address)
        (SimulatedKernel.trigger_follows _ thread handle address).facility
  | clearRecords => exact controlled SimulatedKernel.clearRecords rfl

/-- What is outstanding can be removed, on a session that has none but reliable
slots, and where nothing is outstanding all slots are free. -/
theorem Balanced.settles (balanced : history.Balanced)
    (reliable : history.session.capabilities.2.IsReliable history.session.capabilities.1) :
    (∀ demand ∈ history.outstanding, (history.session.removeDemand demand).1 = .ok ()) ∧
    (history.outstanding = [] → ∀ points ∈ history.session.sets.toList,
      ∀ bank, ∀ slot ∈ (points.table bank).slots, slot = .free) := by
  obtain ⟨trusted, reliable, trust⟩ := reliable
  have current := Session.HoldsFor.current balanced.account
  constructor
  · intro demand member
    have probed : history.session.capabilities.2.Balanced history.session.capabilities.1
        history.outstanding :=
      ⟨current.sound.congr rfl rfl, current.inhabited, current.ledger⟩
    obtain ⟨after, removed, _⟩ := Session.Balanced.removeDemand reliable trust probed member
    rw [removed]
  · intro none points member bank slot there
    obtain ⟨total, ledger, holds⟩ := current.ledger
    rw [none] at ledger
    have held := holds points.thread (current.sound.tracked points member)
    rw [Session.held_of_get? (current.sound.get?_of_mem member)] at held
    have nothing : points.contents = 0 := by
      cases ledger
      exact held
    refine SlotTable.eq_free_of_contents_eq_zero (current.sound.kept points member bank) ?_ there
    refine Multiset.eq_zero_of_forall_notMem fun point listed => ?_
    have all : point ∈ points.contents := by
      cases bank with
      | breakpoints => exact Multiset.mem_add.mpr (.inl listed)
      | watchpoints => exact Multiset.mem_add.mpr (.inr listed)
    rw [nothing] at all
    exact Multiset.notMem_zero point all

def Orderly (history : History) (event : Event) : Prop :=
  match event with
  | .fail failure => failure.call = .writeRegisters
  | .vanish _ => False
  | event => KeepsAccount history event

instance (history : History) : ∀ event, Decidable (Orderly history event)
  | .remove demand => inferInstanceAs (Decidable (demand ∈ history.outstanding))
  | .exit thread =>
      inferInstanceAs (Decidable (∃ other ∈ history.session.threads, other ≠ thread))
  | .fail failure => inferInstanceAs (Decidable (failure.call = .writeRegisters))
  | .vanish _ => .isFalse id
  | .insert _ | .newThread _ | .resume _ | .stop _ | .probe | .askRange _ _ | .askMask _ _
  | .trap _ _ | .trigger _ _ _ | .clearRecords => .isTrue trivial

theorem Orderly.keepsAccount {event : Event} (orderly : Orderly history event) :
    KeepsAccount history event := by
  cases event with
  | remove => exact orderly
  | exit => exact orderly
  | _ => trivial

theorem onlyWritesFail_after (trust : history.session.kernel.OnlyWritesFail) {event : Event}
    (orderly : Orderly history event) : (history.after event).session.kernel.OnlyWritesFail := by
  have probed := Session.capabilities_follows history.session
  cases event with
  | insert demand => exact trust.follows (Session.insertDemand_follows _ demand)
  | remove demand => exact trust.follows (Session.removeDemand_follows _ demand)
  | newThread thread => exact trust.follows (Session.addThread_follows _ thread)
  | exit thread => exact trust.follows (Session.removeThread_follows _ thread)
  | resume thread => exact trust.follows (Session.prepareToResume_follows _ thread)
  | stop thread =>
      have keeps := (Session.stoppedAt_sameTables history.session thread).2
      exact trust.follows (probed.trans keeps.toFollows)
  | probe => exact trust.follows probed
  | askRange address length =>
      change (history.session.canWatch address length).2.kernel.OnlyWritesFail
      unfold Session.canWatch
      split
      · exact trust
      · exact trust.follows probed
  | askMask address mask =>
      change (history.session.maskedWatchRegisters address mask).2.kernel.OnlyWritesFail
      unfold Session.maskedWatchRegisters
      dsimp only
      split
      · exact trust.follows probed
      · split <;> exact trust.follows probed
  | fail failure =>
      refine ⟨fun other member => ?_, trust.vanished⟩
      rcases List.mem_append.mp member with before | added
      · exact trust.failures other before
      · exact List.mem_singleton.mp added ▸ orderly
  | vanish thread => exact absurd orderly id
  | trap thread trap => exact ⟨trust.failures, trust.vanished⟩
  | trigger thread handle address =>
      change (history.session.kernel.trigger thread handle address).OnlyWritesFail
      unfold SimulatedKernel.trigger
      dsimp only
      split <;> exact ⟨trust.failures, trust.vanished⟩
  | clearRecords => exact ⟨trust.failures, trust.vanished⟩

theorem isReliable_of_onlyWritesFail (trust : history.session.kernel.OnlyWritesFail)
    (supported : history.session.kernel.facility.Supports history.session.capabilities.1) :
    history.session.capabilities.2.IsReliable history.session.capabilities.1 := by
  have follows := Session.capabilities_follows history.session
  exact ⟨_, Session.reliable_of_onlyWritesFail _, trust.follows follows,
    fun single => follows.facility.trans (supported.facility_of_legacy single)⟩

theorem Leads.balanced {start history : History} (reached : Leads Orderly start history)
    (balanced : start.Balanced) (trust : start.session.kernel.OnlyWritesFail) :
    history.Balanced ∧ history.session.kernel.OnlyWritesFail := by
  induction reached with
  | start => exact ⟨balanced, trust⟩
  | step before orderly ih =>
      obtain ⟨balanced, trust⟩ := ih
      have supported := Session.capabilities_supported balanced.account.supported
      exact ⟨balanced.after (isReliable_of_onlyWritesFail trust supported) orderly.keepsAccount,
        onlyWritesFail_after trust orderly⟩

/-- On any kernel, as long as only bank writes are told to fail, some thread
stays tracked and only what is outstanding is removed: a demand that is
outstanding can be removed at any time, and while none is outstanding, every slot
of every thread is free. -/
theorem outstanding_demands_can_be_removed {kernel : SimulatedKernel} {leader : ThreadId}
    {settings : Settings} {capabilities? : Option Capabilities} (trust : kernel.OnlyWritesFail)
    (preset : ∀ caps, capabilities? = some caps → kernel.facility.Supports caps)
    (valid : settings.maskTable.IsValid) {history : History}
    (reached : Leads Orderly (ofSession (.start kernel leader settings capabilities?)) history) :
    (∀ demand ∈ history.outstanding, (history.session.removeDemand demand).1 = .ok ()) ∧
    (history.outstanding = [] → ∀ points ∈ history.session.sets.toList,
      ∀ bank, ∀ slot ∈ (points.table bank).slots, slot = .free) := by
  obtain ⟨balanced, trust⟩ := reached.balanced (balanced_start preset valid) trust
  have supported := Session.capabilities_supported balanced.account.supported
  exact balanced.settles (isReliable_of_onlyWritesFail trust supported)

/-- Of two equal conditional demands only the first gets the one comparator. It
is given up first, so the points left are those without it. -/
theorem outstanding_demands_can_be_removed_comparator :
    let kernel := SimulatedKernel.withHandles true
      { version := 1, instructionPoints := 0, dataPoints := 2, comparators := 1,
        dataAlignment := 4, comparatorWidth := 4, features := 1 }
    let demand := Demand.plain
      ⟨.write, ⟨0x1000⟩, 4, 0, some (.memoryEquals ⟨0x1000⟩ 4 5)⟩
    let history := (ofSession (.start kernel ⟨1⟩ .standard none)).afterAll
      [.insert demand, .insert demand, .newThread ⟨2⟩, .remove demand]
    history.outstanding = [demand] ∧
    (∀ demand ∈ history.outstanding, (history.session.removeDemand demand).1 = .ok ()) ∧
    (history.outstanding = [] → ∀ points ∈ history.session.sets.toList,
      ∀ bank, ∀ slot ∈ (points.table bank).slots, slot = .free) := by
  have valid : Settings.standard.maskTable.IsValid := ⟨[0x01, 0x03, 0x0f, 0xff], by decide⟩
  refine ⟨by decide, ?_⟩
  exact outstanding_demands_can_be_removed ⟨fun _ none => absurd none List.not_mem_nil, rfl⟩
    (fun _ known => by cases known) valid (leads_afterAll .start (by decide))

end History

end DebugRegisters
