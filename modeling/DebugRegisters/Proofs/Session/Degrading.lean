import DebugRegisters.Proofs.Kernel.Rejecting
import DebugRegisters.Proofs.Session.Conforming

/-!
# One rejection is enough

A session goes over to its mask table when a watchpoint bank is rejected, and
never back. On a kernel that takes just the masks of that table, this happens once
at most: from then on every bank that is written has only masks that the kernel
takes, on whichever thread and from wherever its points came.
-/

set_option autoImplicit false

namespace DebugRegisters

namespace Event

def IsHarmless : Event → Prop
  | .fail _ | .vanish _ | .clearRecords => False
  | _ => True

instance : ∀ event : Event, Decidable event.IsHarmless
  | .fail _ | .vanish _ | .clearRecords => .isFalse id
  | .insert _ | .remove _ | .newThread _ | .exit _ | .resume _ | .stop _ | .probe | .askRange _ _
  | .askMask _ _ | .trap _ _ | .trigger _ _ _ => .isTrue trivial

end Event

namespace Session

section Restriction

/-- The restriction changes only where a watchpoint bank is rejected while masks are
free, and then the session goes over to its mask table. -/
theorem restriction_perform (session : Session SimulatedKernel) (event : Event) :
    (session.perform event).2.restriction = session.restriction ∨
      ∃ thread, event = .resume thread ∧ session.RejectsWatch thread ∧
        session.restriction.state = .capable ∧
        (session.perform event).2.restriction = { session.restriction with state := .degraded } := by
  cases event with
  | resume thread =>
      by_cases rejected : session.restriction.state = .capable ∧ session.RejectsWatch thread
      · exact .inr ⟨thread, rfl, rejected.2, rejected.1,
          (prepareToResume_degrades rejected.1 rejected.2).2⟩
      · exact .inl (prepareToResume_sameLayout fun capable rejects =>
          rejected ⟨capable, rejects⟩).2
  | insert demand => exact .inl (insertDemand_sameProcess session demand).restriction
  | remove demand => exact .inl (removeDemand_sameProcess session demand).restriction
  | newThread thread => exact .inl (restriction_addThread session thread)
  | exit thread => exact .inl (removeThread_sameTables session thread).restriction
  | stop thread => exact .inl (stoppedAt_sameTables session thread).1.restriction
  | askRange address length =>
      refine .inl ?_
      change (session.canWatch address length).2.restriction = session.restriction
      unfold canWatch
      split <;> rfl
  | askMask address mask =>
      refine .inl ?_
      change (session.maskedWatchRegisters address mask).2.restriction = session.restriction
      unfold maskedWatchRegisters
      dsimp only
      split
      · rfl
      · split <;> rfl
  | probe | fail | vanish | trap | trigger | clearRecords => exact .inl rfl

end Restriction

/-- The session runs on a kernel that takes just the masks of its mask table, that
nothing disturbs, and that has rejected a write at most once. -/
structure Smooth (session : Session SimulatedKernel) : Prop where
  reliable : session.kernel.Reliable
  masks : session.kernel.maskTable = some session.restriction.table
  once : session.kernel.rejections ≤ 1
  unused : session.restriction.state = .capable → session.kernel.rejections = 0
  fitting : ∀ caps, session.capabilities? = some caps →
    ∀ bank, caps.slots bank ≤ session.kernel.facility.bankSize bank

namespace Smooth

variable {session after : Session SimulatedKernel} {breakpoints watchpoints : UInt32}

theorem change (smooth : session.Smooth) (follows : session.kernel.Follows after.kernel)
    (rejections : after.kernel.rejections = session.kernel.rejections)
    (restriction : after.restriction = session.restriction)
    (fitting : ∀ caps, after.capabilities? = some caps →
      ∀ bank, caps.slots bank ≤ session.kernel.facility.bankSize bank) : after.Smooth where
  reliable := smooth.reliable.follows follows
  masks := by
    rw [follows.maskTable, restriction]
    exact smooth.masks
  once := rejections.trans_le smooth.once
  unused capable := rejections.trans (smooth.unused (restriction ▸ capable))
  fitting := by
    rw [follows.facility]
    exact fitting

theorem fits (smooth : session.Smooth)
    (arrays : session.kernel.facility = .arrays breakpoints watchpoints) (bank : RegisterBank) :
    session.capabilities.1.slots bank ≤ session.kernel.facility.bankSize bank := by
  unfold Session.capabilities Capabilities.cachedOrProbe
  cases known : session.capabilities? with
  | some caps => exact smooth.fitting caps known bank
  | none =>
      refine (SimulatedKernel.probe_yields session.kernel session.leader).slots_le ?_ bank
      rw [arrays]
      exact nofun

/-- An operation that writes no bank leaves everything in order. -/
theorem operated (smooth : session.Smooth)
    (arrays : session.kernel.facility = .arrays breakpoints watchpoints)
    (basis : session.capabilities.2.SameBasis after)
    (follows : session.kernel.Follows after.kernel)
    (rejections : after.kernel.rejections = session.kernel.rejections)
    (restriction : after.restriction = session.restriction) : after.Smooth := by
  refine smooth.change follows rejections restriction fun caps known => ?_
  have found : after.capabilities? = some session.capabilities.1 := basis.capabilities?
  rw [found] at known
  cases known
  exact smooth.fits arrays

theorem probed (smooth : session.Smooth)
    (arrays : session.kernel.facility = .arrays breakpoints watchpoints) :
    session.capabilities.2.Smooth :=
  smooth.operated arrays (.refl _) (capabilities_follows session)
    (SimulatedKernel.acrossChanges_rejections.capabilities session) rfl

/-- Questions leave everything in order. -/
theorem keptByQuestions : KeptByQuestions fun session : Session SimulatedKernel =>
    session.Smooth ∧ session.kernel.facility = .arrays breakpoints watchpoints where
  probe {session} before :=
    ⟨before.1.probed before.2, (capabilities_follows session).facility.trans before.2⟩
  quiet before _ := ⟨before.1.change (.refl _) rfl rfl before.1.fitting, before.2⟩

section Flushing

variable {masks : MaskTable} {caps : Capabilities} {thread : ThreadId} {bank : RegisterBank}

theorem length_bankBlock (conforming : session.Conforming masks caps)
    (few : ∀ bank, caps.slots bank ≤ session.kernel.facility.bankSize bank) :
    (session.bankBlock thread bank).pairs.length ≤ session.kernel.facility.bankSize bank := by
  unfold bankBlock
  cases found : session.sets.get? thread with
  | none => exact Nat.zero_le _
  | some points =>
      have sized := (conforming.conforms thread bank).sized
      rw [tableOf_of_get? found] at sized
      have length : (points.table bank).registerBlock.pairs.length = (points.table bank).capacity :=
        List.length_map _
      dsimp only
      rw [length, sized]
      exact few bank

theorem accepted_bankBlock (smooth : session.Smooth) (conforming : session.Conforming masks caps)
    (degraded : session.restriction.state = .degraded) :
    session.kernel.rejects bank (session.bankBlock thread bank) = false := by
  unfold bankBlock
  cases found : session.sets.get? thread with
  | none =>
      unfold SimulatedKernel.rejects
      split <;> rfl
  | some points =>
      have conforms := conforming.conforms thread bank
      rw [tableOf_of_get? found] at conforms
      exact conforms.accepted smooth.masks degraded

/-- A bank that the kernel does not reject is written. -/
theorem attempt (smooth : session.Smooth)
    (arrays : session.kernel.facility = .arrays breakpoints watchpoints)
    (conforming : session.Conforming masks caps)
    (few : ∀ bank, caps.slots bank ≤ session.kernel.facility.bankSize bank)
    (accepted : session.kernel.rejects bank (session.bankBlock thread bank) = false) :
    (session.attempt thread bank).1 = .ok () ∧ (session.attempt thread bank).2.Smooth := by
  obtain ⟨kernel, wrote, rejections⟩ := smooth.reliable.writes arrays thread accepted
    (length_bankBlock conforming few)
  have follows := SimulatedKernel.acrossCalls_follows.writeRegisters session.kernel thread bank
    (session.bankBlock thread bank)
  rw [wrote] at follows
  unfold Session.attempt writeBank
  rw [wrote]
  exact ⟨rfl, smooth.change follows rejections rfl smooth.fitting⟩

theorem flushBank_eq_attempt (dirty : session.IsDirty thread bank)
    (written : (session.attempt thread bank).1 = .ok ()) :
    session.flushBank thread bank = session.attempt thread bank := by
  rw [flushBank_of_dirty dirty]
  unfold Session.attempt at written ⊢
  split at written
  · rfl
  · cases written

/-- After the first rejection the kernel has rejected once, and masks are no longer free. -/
theorem degraded (smooth : session.Smooth) {kernel : SimulatedKernel}
    (capable : session.restriction.state = .capable) (follows : session.kernel.Follows kernel)
    (rejections : kernel.rejections = session.kernel.rejections + 1) :
    ({ session with kernel }.restrictTo { session.restriction with state := .degraded }).Smooth := by
  have before := smooth.unused capable
  have fitting := smooth.fitting
  rw [← follows.facility] at fitting
  have basis := (restrictTo_basis { session with kernel } .degraded).1
  refine ⟨?_, ?_, ?_, fun free => ?_, ?_⟩
  · rw [kernel_restrictTo]
    exact smooth.reliable.follows follows
  · rw [kernel_restrictTo, basis.table]
    exact follows.maskTable.trans smooth.masks
  · rw [kernel_restrictTo]
    change kernel.rejections ≤ 1
    omega
  · rw [restriction_restrictTo] at free
    cases free
  · rw [kernel_restrictTo, basis.capabilities?]
    exact fitting

/-- Flushing a bank succeeds, if need be at the second attempt. -/
theorem flushBank (valid : masks.IsValid) (smooth : session.Smooth)
    (arrays : session.kernel.facility = .arrays breakpoints watchpoints)
    (conforming : session.Conforming masks caps)
    (few : ∀ bank, caps.slots bank ≤ session.kernel.facility.bankSize bank) (thread : ThreadId)
    (bank : RegisterBank) :
    (session.flushBank thread bank).1 = .ok () ∧ (session.flushBank thread bank).2.Smooth := by
  by_cases dirty : session.IsDirty thread bank
  · cases rejected : session.kernel.rejects bank (session.bankBlock thread bank) with
    | false =>
        obtain ⟨written, later⟩ := smooth.attempt arrays conforming few rejected
        rw [flushBank_eq_attempt dirty written]
        exact ⟨written, later⟩
    | true =>
        have capable : session.restriction.state = .capable := by
          cases state : session.restriction.state with
          | capable => rfl
          | degraded =>
              rw [smooth.accepted_bankBlock conforming state] at rejected
              cases rejected
        obtain rfl : bank = .watchpoints := by
          cases bank with
          | breakpoints => simp [SimulatedKernel.rejects] at rejected
          | watchpoints => rfl
        obtain ⟨kernel, wrote, rejections⟩ :=
          SimulatedKernel.writeRegisters_of_rejects arrays thread rejected
        have follows := SimulatedKernel.acrossCalls_follows.writeRegisters session.kernel thread
          .watchpoints (session.bankBlock thread .watchpoints)
        rw [wrote] at follows
        have principle : KeptByResuming (fun before : Session SimulatedKernel =>
            before.Conforming masks caps) := Conforming.keptByResuming valid caps
        have later := smooth.degraded capable follows rejections
        have conformingLater := principle.restrictTo (principle.call conforming kernel) capable
        rw [flushBank_of_dirty dirty]
        unfold writeBank
        rw [wrote]
        simp only [degradeFor?, Restriction.degrade?, capable, and_self, if_true, Option.map_some]
        exact later.attempt (by rw [kernel_restrictTo]; exact follows.facility.trans arrays)
          conformingLater (by rw [kernel_restrictTo]; exact follows.facility ▸ few)
          (later.accepted_bankBlock conformingLater (by rw [restriction_restrictTo]))
  · rw [flushBank_of_clean dirty]
    exact ⟨rfl, smooth⟩

/-- As all banks can be written, the thread can resume. -/
theorem flushBanks (valid : masks.IsValid) (smooth : session.Smooth)
    (arrays : session.kernel.facility = .arrays breakpoints watchpoints)
    (conforming : session.Conforming masks caps)
    (few : ∀ bank, caps.slots bank ≤ session.kernel.facility.bankSize bank) (thread : ThreadId)
    (banks : List RegisterBank) :
    (session.flushBanks thread banks).1 = .ok () ∧ (session.flushBanks thread banks).2.Smooth := by
  induction banks generalizing session with
  | nil => exact ⟨rfl, smooth⟩
  | cons bank rest ih =>
      obtain ⟨written, later⟩ := smooth.flushBank valid arrays conforming few thread bank
      have conformingLater := (Conforming.keptByResuming valid caps).flushBank conforming thread bank
      have follows := SimulatedKernel.acrossCalls_follows.flushBank session thread bank
      unfold Session.flushBanks
      split
      · next failed =>
          rw [failed] at written
          cases written
      · next after flushed =>
          rw [flushed] at later conformingLater follows
          exact ih later (follows.facility.trans arrays) conformingLater (follows.facility ▸ few)

theorem prepareToResume (valid : masks.IsValid) (smooth : session.Smooth)
    (all : session.HoldsOn (.arrays breakpoints watchpoints) (Conforming masks))
    (thread : ThreadId) :
    (session.prepareToResume thread).1 = .ok () ∧
      (session.prepareToResume thread).2.Smooth := by
  have follows := capabilities_follows session
  have probed := smooth.probed all.facility
  have conforming := (Conforming.keptByOperations valid breakpoints watchpoints).probed all
  unfold Session.prepareToResume
  dsimp only
  split
  · exact probed.flushBanks valid (follows.facility.trans all.facility) conforming
      (follows.facility ▸ smooth.fits all.facility) thread RegisterBank.all
  · exact ⟨rfl, probed⟩

end Flushing

/-- A harmless event leaves everything in order. -/
theorem perform {masks : MaskTable} (valid : masks.IsValid) (smooth : session.Smooth)
    (all : session.HoldsOn (.arrays breakpoints watchpoints) (Conforming masks)) {event : Event}
    (harmless : event.IsHarmless) : (session.perform event).2.Smooth := by
  have changes := SimulatedKernel.acrossChanges_rejections
  cases event with
  | insert demand =>
      have process := insertDemand_sameProcess session demand
      exact smooth.operated all.facility process.sameBasis (insertDemand_follows session demand)
        (changes.insertDemand session demand) process.restriction
  | remove demand =>
      have process := removeDemand_sameProcess session demand
      exact smooth.operated all.facility process.sameBasis (removeDemand_follows session demand)
        (changes.removeDemand session demand) process.restriction
  | newThread thread =>
      exact smooth.operated all.facility (addThread_basis session thread)
        (addThread_follows session thread) (changes.addThread session thread)
        (restriction_addThread session thread)
  | exit thread =>
      have same := removeThread_sameTables session thread
      exact smooth.change (removeThread_follows session thread) (changes.removeThread session thread)
        same.restriction fun caps known => smooth.fitting caps (same.capabilities?.symm.trans known)
  | resume thread => exact (smooth.prepareToResume valid all thread).2
  | stop thread =>
      obtain ⟨same, keeps⟩ := stoppedAt_sameTables session thread
      exact smooth.operated all.facility same.sameBasis
        ((capabilities_follows session).trans keeps.toFollows) (changes.stoppedAt session thread)
        same.restriction
  | probe => exact smooth.probed all.facility
  | askRange address length =>
      exact keptByQuestions.canWatch ⟨smooth, all.facility⟩ address length |>.1
  | askMask address mask =>
      exact keptByQuestions.maskedWatchRegisters ⟨smooth, all.facility⟩ address mask |>.1
  | trap thread trap =>
      exact smooth.change (session.kernel.setTrap_follows thread trap) rfl rfl smooth.fitting
  | trigger thread handle address =>
      exact smooth.change (session.kernel.trigger_follows thread handle address)
        (congrArg (List.countP _) (session.kernel.calls_trigger thread handle address)) rfl
        smooth.fitting
  | fail | vanish | clearRecords => exact absurd harmless id

end Smooth

/-- The session never goes back to free masks. It gives them up only as a thread is
made ready to resume whose watchpoint bank is rejected, and from then on every slot
that holds a watchpoint has a mask of the table. -/
structure OneWay (masks : MaskTable) (session : Session SimulatedKernel) : Prop where
  stays (event : Event) (degraded : session.restriction.state = .degraded) :
    (session.perform event).2.restriction.state = .degraded
  leaves {event : Event} (capable : session.restriction.state = .capable)
    (degraded : (session.perform event).2.restriction.state = .degraded) :
    ∃ thread, event = .resume thread ∧ session.RejectsWatch thread
  masked (degraded : session.restriction.state = .degraded) :
    ∀ points ∈ session.sets.toList, ∀ slot ∈ (points.table .watchpoints).slots,
      ∀ point, slot.point = some point →
        ∃ mask, point.span = .bytes mask ∧ masks.contains mask = true

theorem Conforming.oneWay {masks : MaskTable} {caps : Capabilities}
    {session : Session SimulatedKernel} (conforming : session.Conforming masks caps) :
    session.OneWay masks where
  stays event degraded := by
    rcases session.restriction_perform event with same | ⟨_, _, _, _, gone⟩
    · rwa [same]
    · rw [gone]
  leaves {event} capable degraded := by
    rcases session.restriction_perform event with same | ⟨thread, resumed, rejects, _⟩
    · rw [same, capable] at degraded
      cases degraded
    · exact ⟨thread, resumed, rejects⟩
  masked degraded points member slot there point holds := by
    have conforms := conforming.conforms points.thread .watchpoints
    rw [tableOf_of_get? (conforming.sound.get?_of_mem member)] at conforms
    obtain ⟨mask, masked, inside⟩ := conforms.permitted_of_slot there holds
    exact ⟨mask, masked, conforming.table ▸ inside degraded⟩

/-- On a kernel that takes just the masks of the session's table, one rejection is
enough. If no failure is ordered and no thread is lost, then no thread is ever kept
from resuming, and at most one bank write is rejected. Whatever happens, the session
goes over to its table for a rejection only, does so for good, and holds no other
masks from then on. -/
theorem one_rejection_is_enough {breakpoints watchpoints : UInt32} {leader : ThreadId}
    {settings : Settings} {capabilities? : Option Capabilities}
    (valid : settings.maskTable.IsValid)
    (preset : ∀ caps, capabilities? = some caps →
      (SimulatedKernel.withArrays breakpoints watchpoints).facility.Supports caps ∧
      ∀ bank, caps.slots bank ≤
        (SimulatedKernel.withArrays breakpoints watchpoints).facility.bankSize bank) :
    let kernel :=
      { SimulatedKernel.withArrays breakpoints watchpoints with maskTable := some settings.maskTable }
    let start := History.ofSession (.start kernel leader settings capabilities?)
    (∀ history, History.Leads (fun _ event => event.IsHarmless) start history →
      history.session.kernel.rejections ≤ 1 ∧
      ∀ thread, (history.session.prepareToResume thread).1 = .ok ()) ∧
    ∀ history, History.Leads (fun _ _ => True) start history →
      history.session.OneWay settings.maskTable := by
  intro kernel start
  have principle := (Conforming.keptByOperations valid (Arm.InfoWord.ofSlots breakpoints)
    (Arm.InfoWord.ofSlots watchpoints)).keptByEvents
  have begun : start.session.HoldsOn (.arrays (Arm.InfoWord.ofSlots breakpoints)
      (Arm.InfoWord.ofSlots watchpoints)) (Conforming settings.maskTable) :=
    ⟨rfl, fun caps known => (preset caps known).1,
      fun caps _ _ => Conforming.start kernel leader settings capabilities? caps⟩
  refine ⟨fun history reached => ?_, fun history reached => ?_⟩
  · have smooth : history.session.Smooth := by
      induction reached with
      | start => exact ⟨⟨rfl, rfl⟩, rfl, Nat.zero_le _, fun _ => rfl,
          fun caps known => (preset caps known).2⟩
      | step before harmless ih => exact ih.perform valid (before.kept principle begun) harmless
    exact ⟨smooth.once, fun thread =>
      (smooth.prepareToResume valid (reached.kept principle begun) thread).1⟩
  · exact (reached.kept principle begun).found.current.oneWay

/-- A second thread takes over a watch over two windows, and the mask of its first
point is not in the table. Both threads can resume, after one rejection for both. -/
theorem one_rejection_is_enough_inherited :
    let kernel := { SimulatedKernel.withArrays 2 2 with maskTable := some .standard }
    let start := History.ofSession (.start kernel ⟨1⟩ .standard none)
    let history := start.afterAll
      [.insert (.plain (.watch .write ⟨0x1006⟩ 4)), .newThread ⟨2⟩, .resume ⟨1⟩]
    history.session.kernel.rejections = 1 ∧
    history.session.restriction.state = .degraded ∧
    (history.session.prepareToResume ⟨2⟩).1 = .ok () ∧
    history.session.OneWay .standard := by
  intro kernel start history
  have valid : Settings.standard.maskTable.IsValid := ⟨[0x01, 0x03, 0x0f, 0xff], by decide⟩
  obtain ⟨calm, always⟩ := @one_rejection_is_enough 2 2 ⟨1⟩ .standard none valid nofun
  exact ⟨by decide +kernel, by decide +kernel,
    (calm history (History.leads_afterAll .start (by decide +kernel))).2 ⟨2⟩,
    always history (History.leads_afterAll .start (by decide +kernel))⟩

end Session

end DebugRegisters
