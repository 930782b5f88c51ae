import DebugRegisters.Proofs.Session.Accounting
import DebugRegisters.Proofs.Session.DataBreakpoint.Changes

/-!
# The single data breakpoint register

Where no call fails, the register of every tracked thread has the value of the
point in its slot, and zero while the slot is free.

A session remembers only the value last written, and gives it to a thread that
appears. That is right as long as another thread is tracked, because all of them
hold the same points. The exit of the last thread takes its points away and leaves
the value that was written for them, so a thread that is taken up then watches what
no slot holds.
-/

set_option autoImplicit false

namespace DebugRegisters

namespace SimulatedKernel

variable {architecture : Architecture} {kernel after : SimulatedKernel}

structure TakesValues (architecture : Architecture) (kernel : SimulatedKernel) : Prop where
  architecture : kernel.architecture = architecture
  facility : kernel.facility = .legacy
  reliable : kernel.OnlyWritesFail

theorem takesValues_withLegacyRegister (isBookE : Bool) :
    (withLegacyRegister isBookE).TakesValues (powerArchitecture isBookE) :=
  ⟨rfl, rfl, fun _ none => absurd none List.not_mem_nil, rfl⟩

namespace TakesValues

theorem follows (takes : kernel.TakesValues architecture) (follows : kernel.Follows after) :
    after.TakesValues architecture :=
  ⟨follows.architecture.trans takes.architecture, follows.facility.trans takes.facility,
    takes.reliable.follows follows⟩

theorem writeLegacy (takes : kernel.TakesValues architecture) (thread : ThreadId) (value : UInt64) :
    ∃ entered, Kernel.writeLegacy kernel thread value = (.ok (), entered.withLegacy thread value) ∧
      kernel.Enters .writeLegacy thread none entered := by
  have answered := takes.reliable.writeLegacy_answer takes.facility thread value
  have outcome := writesLegacy kernel thread value
  generalize Kernel.writeLegacy kernel thread value = reply at answered outcome
  cases outcome with
  | refused => cases answered
  | written entered => exact ⟨_, rfl, entered⟩

/-- The register is found, and cleared on the thread that was asked. -/
theorem probe (takes : kernel.TakesValues architecture) (power : architecture.isPowerPC = true)
    (thread : ThreadId) :
    ∃ (entered : SimulatedKernel) (notices : List Notice), Capabilities.probe kernel thread =
        (.legacy architecture, entered.withLegacy thread 0, notices) ∧
      entered.threads = kernel.threads := by
  have asked := debugInfo_answer takes.reliable thread
  have keeps := debugInfo_keeps kernel thread
  rw [takes.facility] at asked
  unfold Capabilities.probe Capabilities.query?
  dsimp only
  generalize Kernel.debugInfo kernel thread = reply at asked keeps
  obtain ⟨answer, middle⟩ := reply
  cases asked
  have later := takes.follows keeps.toFollows
  obtain ⟨entered, written, begun⟩ := later.writeLegacy thread 0
  have same : Kernel.architecture middle = architecture := later.architecture
  refine ⟨entered, [.capabilities (.legacy architecture)], ?_, begun.threads.trans keeps.threads⟩
  simp only [Capabilities.fallback, same, power, if_true, written]
  rfl

end TakesValues

end SimulatedKernel

namespace Session

variable {architecture : Architecture} {session after : Session SimulatedKernel}
  {thread : ThreadId}

theorem legacy_dropRegistrations (report : SlotHandle → KernelError → Notice)
    (session : Session SimulatedKernel) (thread : ThreadId) (handles : List SlotHandle)
    (other : ThreadId) :
    ((dropRegistrations report session thread handles).kernel.threads other).legacy =
      (session.kernel.threads other).legacy := by
  induction handles generalizing session with
  | nil => rfl
  | cons handle rest ih =>
      have dropped := SimulatedKernel.legacy_deregister session.kernel thread handle other
      unfold dropRegistrations
      split <;> next answered =>
        rw [answered] at dropped
        exact (ih _).trans dropped

theorem legacy_removeThread (session : Session SimulatedKernel) (thread other : ThreadId) :
    ((session.removeThread thread).kernel.threads other).legacy =
      (session.kernel.threads other).legacy := by
  obtain ⟨handles, notices, removed⟩ := removeThread_eq session thread
  rw [removed]
  exact legacy_dropRegistrations _ (session.forget thread) thread handles other

/-- A thread that is taken up gets the value last written. -/
theorem legacy_addThread (legacy : session.capabilities.1.interface = .legacy)
    (takes : session.capabilities.2.kernel.TakesValues architecture) (thread : ThreadId) :
    (session.addThread thread).2.legacyValue = session.legacyValue ∧
    ((session.addThread thread).2.kernel.threads thread).legacy = session.legacyValue ∧
    ∀ other ≠ thread, ((session.addThread thread).2.kernel.threads other).legacy =
      (session.capabilities.2.kernel.threads other).legacy := by
  obtain ⟨entered, written, begun⟩ := takes.writeLegacy thread session.legacyValue
  have copied : Kernel.writeLegacy (session.announce thread).kernel thread
      (session.announce thread).legacyValue =
        (.ok (), entered.withLegacy thread session.legacyValue) := written
  have kept : ∀ after : Session SimulatedKernel,
      ((after.follow thread).showRegisters "new thread").legacyValue = after.legacyValue := by
    intro after
    refine (sameTables_showRegisters _ _).legacyValue.trans ?_
    unfold follow
    split <;> rfl
  have kernel : (session.addThread thread).2.kernel =
        entered.withLegacy thread session.legacyValue ∧
      (session.addThread thread).2.legacyValue = session.legacyValue := by
    rw [addThread_eq]
    cases session.pattern? thread <;> simp only [equip, legacy, copied] <;>
      exact ⟨kernel_follow_showRegisters _ _ _, kept _⟩
  rw [kernel.1]
  refine ⟨kernel.2, SimulatedKernel.legacy_withLegacy _ _ thread, fun other different => ?_⟩
  rw [SimulatedKernel.threads_withLegacy_of_ne _ _ different, begun.threads]

structure Reflects (architecture : Architecture) (session : Session SimulatedKernel) : Prop where
  takes : session.kernel.TakesValues architecture
  known : ∀ caps, session.capabilities? = some caps → caps = .legacy architecture
  bare : session.capabilities? = none → session.sets.toList = []
  shows : session.Shows architecture
  noted : session.NotesValue
  alike : session.Alike

namespace Reflects

/-- The value last written is that of every tracked thread. -/
theorem latest (reflects : session.Reflects architecture) (tracked : thread ∈ session.threads) :
    (session.kernel.threads thread).legacy = session.legacyValue := by
  obtain ⟨other, listed, value⟩ := reflects.noted (List.ne_nil_of_mem tracked)
  obtain ⟨total, holds⟩ := reflects.alike
  obtain ⟨slot, single⟩ := reflects.shows.steady.exists_slot other
  have member : slot ∈ (session.tableOf (.legacy architecture) other .watchpoints).slots :=
    single ▸ List.mem_singleton_self slot
  have same : session.held other = session.held thread :=
    (holds other listed).trans (holds thread tracked).symm
  calc (session.kernel.threads thread).legacy
    _ = slot.breakpointValue architecture.isBookE :=
        reflects.shows.value_of_same tracked reflects.shows.steady same member
    _ = (session.kernel.threads other).legacy :=
        (reflects.shows.shown other listed slot member).symm
    _ = session.legacyValue := value

/-- A thread shows its slot if it has the value last written and holds what the
tracked threads hold. -/
theorem shown_of_latest (reflects : session.Reflects architecture) {caller : ThreadId}
    (tracked : caller ∈ session.threads) (steady : after.Steady (.legacy architecture))
    (same : after.held thread = session.held caller)
    (value : (after.kernel.threads thread).legacy = session.legacyValue) :
    after.Shown architecture thread := by
  intro slot member
  rw [value, ← reflects.latest tracked]
  exact reflects.shows.value_of_same tracked steady same member

theorem start (kernel : SimulatedKernel) (takes : kernel.TakesValues architecture)
    (unset : ∀ thread, (kernel.threads thread).legacy = 0) (leader : ThreadId)
    (settings : Settings) {capabilities? : Option Capabilities}
    (preset : ∀ caps, capabilities? = some caps → caps = .legacy architecture) :
    (Session.start kernel leader settings capabilities?).Reflects architecture where
  takes
  known := preset
  bare _ := rfl
  shows := by
    refine ⟨.start kernel leader settings capabilities? _, fun thread _ slot member => ?_⟩
    rw [tableOf_of_none rfl] at member
    rw [List.eq_of_mem_replicate member]
    exact unset thread
  noted _ := ⟨leader, List.mem_singleton_self leader, unset leader⟩
  alike := ⟨0, fun _ _ => rfl⟩

theorem sameTables (reflects : session.Reflects architecture) (same : session.SameTables after)
    (follows : session.kernel.Follows after.kernel)
    (registers : ∀ thread ∈ session.threads, (after.kernel.threads thread).legacy =
      (session.kernel.threads thread).legacy) : after.Reflects architecture where
  takes := reflects.takes.follows follows
  known caps found := reflects.known caps (same.capabilities?.symm.trans found)
  bare unknown := same.sets ▸ reflects.bare (same.capabilities?.symm.trans unknown)
  shows := by
    refine ⟨reflects.shows.steady.congr same.sets same.threads, fun thread tracked => ?_⟩
    have before : thread ∈ session.threads := same.threads ▸ tracked
    exact (reflects.shows.shown thread before).congr
      (congrFun (tableOf_congr same.sets _) thread) (registers thread before)
  noted some := by
    obtain ⟨thread, tracked, value⟩ := reflects.noted (same.threads ▸ some)
    refine ⟨thread, same.threads ▸ tracked, ?_⟩
    exact (registers thread tracked).trans (value.trans same.legacyValue.symm)
  alike := reflects.alike.congr same.sets same.threads

/-- Before the capabilities are known, all registers are clear. -/
theorem legacy_of_unknown (reflects : session.Reflects architecture)
    (unknown : session.capabilities? = none) (tracked : thread ∈ session.threads) :
    (session.kernel.threads thread).legacy = 0 := by
  obtain ⟨slot, single⟩ := reflects.shows.steady.exists_slot thread
  have member : slot ∈ (session.tableOf (.legacy architecture) thread .watchpoints).slots :=
    single ▸ List.mem_singleton_self slot
  have shown := reflects.shows.shown thread tracked slot member
  rw [tableOf_of_bare (reflects.bare unknown)] at member
  rw [shown, List.eq_of_mem_replicate member]
  rfl

/-- Looking for the capabilities finds the data breakpoint register and leaves it
clear. -/
theorem probed (reflects : session.Reflects architecture) (power : architecture.isPowerPC = true) :
    session.capabilities.1 = .legacy architecture ∧ session.capabilities.2.Reflects architecture := by
  cases known : session.capabilities? with
  | some caps =>
      rw [capabilities_of_known known]
      exact ⟨reflects.known caps known, reflects⟩
  | none =>
      obtain ⟨entered, notices, answered, kept⟩ := reflects.takes.probe power session.leader
      have found : session.capabilities =
          (.legacy architecture,
            { session with
              kernel := entered.withLegacy session.leader 0
              capabilities? := some (.legacy architecture)
              notices := session.notices ++ notices }) := by
        unfold capabilities Capabilities.cachedOrProbe
        simp only [known, answered]
      have follows := capabilities_follows session
      rw [found] at follows ⊢
      have registers : ∀ thread ∈ session.threads,
          ((entered.withLegacy session.leader 0).threads thread).legacy =
            (session.kernel.threads thread).legacy := by
        intro thread tracked
        by_cases here : thread = session.leader
        · subst here
          rw [SimulatedKernel.legacy_withLegacy, reflects.legacy_of_unknown known tracked]
        · rw [SimulatedKernel.threads_withLegacy_of_ne _ _ here, kept]
      have called : Reflects architecture
          { session with
            kernel := entered.withLegacy session.leader 0
            notices := session.notices ++ notices } :=
        reflects.sameTables (.of_kernel session _ _) follows registers
      refine ⟨rfl, called.takes, fun caps same => ?_, fun unknown => ?_, ?_, called.noted,
        called.alike.congr rfl rfl⟩
      · cases same
        rfl
      · cases unknown
      · exact called.shows.congr (called.shows.steady.congr rfl rfl) rfl (tableOf_congr rfl _)
          fun _ => rfl

section Operations

variable (power : architecture.isPowerPC = true)
include power

/-- What an operation leaves is known to be about the data breakpoint register. -/
theorem operated (reflects : session.Reflects architecture)
    (basis : session.capabilities.2.SameBasis after) (follows : session.kernel.Follows after.kernel)
    (shows : after.Shows architecture) (noted : after.NotesValue) (alike : after.Alike) :
    after.Reflects architecture where
  takes := reflects.takes.follows follows
  known caps found := by
    have same : after.capabilities? = some session.capabilities.1 := basis.capabilities?
    rw [(reflects.probed power).1, found] at same
    exact Option.some.inj same
  bare unknown := by
    have same : after.capabilities? = some session.capabilities.1 := basis.capabilities?
    rw [unknown] at same
    cases same
  shows
  noted
  alike

theorem insertDemand (reflects : session.Reflects architecture) (demand : Demand) :
    (session.insertDemand demand).2.Reflects architecture := by
  obtain ⟨found, probed⟩ := reflects.probed power
  have legacy : session.capabilities.1.interface = .legacy := found ▸ rfl
  have sound : session.Sound := reflects.shows.steady.sound
  refine reflects.operated power (insertDemand_sameProcess session demand).sameBasis
    (insertDemand_follows session demand) ?_ ?_ ?_
  · exact insertDemand_keeps (found ▸ Shows.keptByChanges architecture) probed.shows demand
  · exact insertDemand_keeps (keptByChanges_notesValue legacy) probed.noted demand
  · exact reflects.alike.insertDemand sound (reliable_of_onlyWritesFail _)
      ⟨probed.takes.reliable, fun _ => probed.takes.facility⟩ demand

theorem removeDemand (reflects : session.Reflects architecture) (demand : Demand) :
    (session.removeDemand demand).2.Reflects architecture := by
  obtain ⟨found, probed⟩ := reflects.probed power
  have legacy : session.capabilities.1.interface = .legacy := found ▸ rfl
  have few : session.capabilities.1.watchpointSlots ≤ 1 := found ▸ Nat.le_refl 1
  have sound : session.Sound := reflects.shows.steady.sound
  refine reflects.operated power (removeDemand_sameProcess session demand).sameBasis
    (removeDemand_follows session demand) ?_ ?_ ?_
  · exact removeDemand_keeps (found ▸ Shows.keptByChanges architecture) probed.shows demand
  · exact removeDemand_keeps (keptByChanges_notesValue legacy) probed.noted demand
  · exact reflects.alike.removeDemand sound few (reliable_of_onlyWritesFail _)
      ⟨probed.takes.reliable, fun _ => probed.takes.facility⟩ demand

/-- A new thread gets the value of the threads whose points it copies, as long as
there are such, or as there is no value to get. -/
theorem addThread (reflects : session.Reflects architecture)
    (timely : session.threads ≠ [] ∨ session.legacyValue = 0) (thread : ThreadId) :
    (session.addThread thread).2.Reflects architecture := by
  obtain ⟨found, probed⟩ := reflects.probed power
  have legacy : session.capabilities.1.interface = .legacy := found ▸ rfl
  have immediate : session.capabilities.1.interface ≠ .unavailable := by rw [legacy]; decide
  have sound : session.Sound := reflects.shows.steady.sound
  have steady := (found ▸ probed.shows.steady : Steady session.capabilities.1 _).addThread thread
  rw [found] at steady
  obtain ⟨remembered, written, others⟩ := legacy_addThread legacy probed.takes thread
  have registers : ∀ other ∈ (session.addThread thread).2.threads,
      ((session.addThread thread).2.kernel.threads other).legacy = session.legacyValue := by
    intro other member
    by_cases here : other = thread
    · exact here ▸ written
    · have tracked := (mem_of_mem_addThread member).resolve_right here
      exact (others other here).trans (probed.latest tracked)
  refine reflects.operated power (addThread_basis session thread) (addThread_follows session thread)
    ⟨steady, fun other member => ?_⟩ (fun some => ?_)
    (reflects.alike.addThread sound immediate thread)
  · obtain ⟨total, holds, nothing⟩ := reflects.alike.exists_total
    have same : (session.addThread thread).2.held other = total :=
      held_addThread sound holds
        (fun none => none.elim nothing fun missing => absurd missing immediate) member
    cases threads : session.threads with
    | cons first rest =>
        have tracked : first ∈ session.threads := threads ▸ List.mem_cons_self
        exact reflects.shown_of_latest tracked steady (same.trans (holds first tracked).symm)
          (registers other member)
    | nil =>
        have clear : session.legacyValue = 0 := timely.resolve_left (absurd threads)
        intro slot there
        rw [steady.held_of_slot there, nothing threads] at same
        rw [registers other member, clear]
        exact (Slot.breakpointValue_of_contents
          ((steady.orderly other .watchpoints).kept slot there) same _).symm
  · obtain ⟨other, member⟩ := List.exists_mem_of_ne_nil _ some
    exact ⟨other, member, (registers other member).trans remembered.symm⟩

end Operations

theorem forget (reflects : session.Reflects architecture) (thread : ThreadId) :
    (session.forget thread).Reflects architecture where
  takes := reflects.takes
  known := reflects.known
  bare unknown := by
    change (session.sets.erase thread).toList = []
    simp [ThreadSets.erase, reflects.bare unknown]
  shows := by
    refine ⟨reflects.shows.steady.forget thread, fun other member => ?_⟩
    obtain ⟨tracked, apart⟩ := List.mem_filter.mp member
    exact (reflects.shows.shown other tracked).congr
      (tableOf_forget_of_ne (of_decide_eq_true apart) session _) rfl
  noted some := by
    obtain ⟨other, member⟩ := List.exists_mem_of_ne_nil _ some
    exact ⟨other, member, reflects.latest (List.mem_filter.mp member).1⟩
  alike := reflects.alike.forget thread

theorem removeThread (reflects : session.Reflects architecture) (thread : ThreadId) :
    (session.removeThread thread).Reflects architecture :=
  (reflects.forget thread).sameTables (removeThread_sameTables session thread)
    (removeThread_follows session thread) fun other _ => legacy_removeThread session thread other

theorem called (reflects : session.Reflects architecture) {kernel : SimulatedKernel}
    (follows : session.kernel.Follows kernel)
    (registers : ∀ thread, (kernel.threads thread).legacy =
      (session.kernel.threads thread).legacy) : { session with kernel }.Reflects architecture :=
  reflects.sameTables (.of_kernel session _ _) follows fun thread _ => registers thread

end Reflects

/-- A thread's data breakpoint register has the value of the point in its one slot.
It is zero while the slot is free, and on a thread without slots. -/
structure MirrorsSlot (isBookE : Bool) (session : Session SimulatedKernel) (thread : ThreadId) :
    Prop where
  slot {points : ThreadPoints} (found : session.sets.get? thread = some points) :
    ∃ slot, points.watchpoints.table.slots = [slot] ∧
      (session.kernel.threads thread).legacy = slot.breakpointValue isBookE
  clear (absent : session.sets.get? thread = none) : (session.kernel.threads thread).legacy = 0

theorem Reflects.mirrorsSlot (reflects : session.Reflects architecture)
    (tracked : thread ∈ session.threads) : session.MirrorsSlot architecture.isBookE thread := by
  obtain ⟨slot, single⟩ := reflects.shows.steady.exists_slot thread
  have shown := reflects.shows.shown thread tracked slot (single ▸ List.mem_singleton_self slot)
  refine ⟨fun {points} found => ⟨slot, ?_, shown⟩, fun absent => ?_⟩
  · rw [tableOf_of_get? found] at single
    exact single
  · have nothing : session.held thread = 0 := by simp only [held, absent]
    rw [reflects.shows.steady.held_of_slot (single ▸ List.mem_singleton_self slot)] at nothing
    rw [shown, Slot.breakpointValue_of_contents
      ((reflects.shows.steady.orderly thread .watchpoints).kept slot
        (single ▸ List.mem_singleton_self slot)) nothing]

end Session

namespace History

/-- No failure is ordered and no thread is lost. A thread that appears while none is
tracked finds no value that was written for threads before it. -/
def Undisturbed (history : History) : Event → Prop
  | .newThread _ => history.session.threads ≠ [] ∨ history.session.legacyValue = 0
  | .fail _ | .vanish _ => False
  | _ => True

instance (history : History) : ∀ event, Decidable (Undisturbed history event)
  | .newThread _ =>
      inferInstanceAs (Decidable (history.session.threads ≠ [] ∨ history.session.legacyValue = 0))
  | .fail _ | .vanish _ => .isFalse id
  | .insert _ | .remove _ | .exit _ | .resume _ | .stop _ | .probe | .askRange _ _ | .askMask _ _
  | .trap _ _ | .trigger _ _ _ | .clearRecords => .isTrue trivial

theorem reflects_after {architecture : Architecture} (power : architecture.isPowerPC = true)
    {history : History} {event : Event} (reflects : history.session.Reflects architecture)
    (undisturbed : Undisturbed history event) :
    (history.after event).session.Reflects architecture := by
  obtain ⟨found, probed⟩ := reflects.probed power
  cases event with
  | insert demand => exact reflects.insertDemand power demand
  | remove demand => exact reflects.removeDemand power demand
  | newThread thread => exact reflects.addThread power undisturbed thread
  | exit thread => exact reflects.removeThread thread
  | resume thread =>
      change (history.session.prepareToResume thread).2.Reflects architecture
      have immediate : history.session.capabilities.1.interface ≠ .registerArray := by
        rw [found]
        exact nofun
      rw [Session.prepareToResume_of_immediate immediate]
      exact probed
  | stop thread =>
      obtain ⟨same, keeps⟩ := Session.stoppedAt_sameTables history.session thread
      exact probed.sameTables same keeps.toFollows fun other _ =>
        congrArg ThreadRegisters.legacy (congrFun keeps.threads other)
  | probe => exact probed
  | askRange address length =>
      change (history.session.canWatch address length).2.Reflects architecture
      unfold Session.canWatch
      split
      · exact reflects
      · exact probed
  | askMask address mask =>
      change (history.session.maskedWatchRegisters address mask).2.Reflects architecture
      unfold Session.maskedWatchRegisters
      dsimp only
      split
      · exact probed
      · split
        · exact probed.sameTables (.of_kernel _ _ _) (.refl _) fun _ _ => rfl
        · exact probed
  | fail | vanish => exact absurd undisturbed id
  | trap thread trap =>
      exact reflects.called (history.session.kernel.setTrap_follows thread trap)
        (history.session.kernel.legacy_setTrap thread trap)
  | trigger thread handle address =>
      exact reflects.called (history.session.kernel.trigger_follows thread handle address)
        (history.session.kernel.legacy_trigger thread handle address)
  | clearRecords =>
      have cleared : history.session.kernel.Follows history.session.kernel.clearRecords :=
        ⟨rfl, rfl, rfl, rfl, fun _ member => member⟩
      exact reflects.called cleared fun _ => rfl

/-- On a kernel with nothing but the data breakpoint register, as long as no call
fails and no thread is lost, the register of every tracked thread has the value of
the point in the thread's slot, and is zero without one. A thread may appear while
none is tracked only where the session remembers no value. -/
theorem data_breakpoint_mirrors_slot {isBookE : Bool} {leader : ThreadId} {settings : Settings}
    {capabilities? : Option Capabilities}
    (preset : ∀ caps, capabilities? = some caps →
      caps = .legacy (SimulatedKernel.powerArchitecture isBookE))
    {history : History}
    (reached : Leads Undisturbed
      (ofSession (.start (.withLegacyRegister isBookE) leader settings capabilities?)) history) :
    ∀ thread ∈ history.session.threads, history.session.MirrorsSlot isBookE thread := by
  have power : (SimulatedKernel.powerArchitecture isBookE).isPowerPC = true := by
    cases isBookE <;> rfl
  have flags : (SimulatedKernel.powerArchitecture isBookE).isBookE = isBookE := by
    cases isBookE <;> rfl
  have reflects : history.session.Reflects (SimulatedKernel.powerArchitecture isBookE) := by
    induction reached with
    | start =>
        exact Session.Reflects.start _ (SimulatedKernel.takesValues_withLegacyRegister isBookE)
          (fun _ => rfl) leader settings preset
    | step _ undisturbed ih => exact reflects_after power ih undisturbed
  intro thread tracked
  have mirrors := reflects.mirrorsSlot tracked
  rwa [flags] at mirrors

/-- A watch is taken over by a second thread, which stays when the first one exits. -/
theorem data_breakpoint_mirrors_slot_inherited :
    let start := ofSession (.start (.withLegacyRegister false) ⟨100⟩ .standard none)
    let history := start.afterAll
      [.insert (.plain (.watch .write ⟨0x1000⟩ 8)), .newThread ⟨101⟩, .exit ⟨100⟩]
    history.session.threads = [⟨101⟩] ∧
    (history.session.kernel.threads ⟨101⟩).legacy = 0x1006 ∧
    ∀ thread ∈ history.session.threads, history.session.MirrorsSlot false thread := by
  intro start history
  refine ⟨by decide +kernel, by decide +kernel, ?_⟩
  exact @data_breakpoint_mirrors_slot false ⟨100⟩ .standard none nofun history
    (leads_afterAll .start (by decide +kernel))

/-- When the last thread exits, its points are forgotten and the value that was
written for them is not. The next thread gets it, and holds nothing. -/
theorem last_exit_leaves_data_breakpoint :
    let start := ofSession (.start (.withLegacyRegister false) ⟨100⟩ .standard none)
    let events : List Event :=
      [.insert (.plain (.watch .write ⟨0x1000⟩ 8)), .exit ⟨100⟩, .newThread ⟨101⟩]
    let history := start.afterAll events
    Permitted NoReuse start events ∧
    history.session.threads = [⟨101⟩] ∧
    history.session.sets.get? ⟨101⟩ = none ∧
    (history.session.kernel.threads ⟨101⟩).legacy = 0x1006 ∧
    ¬history.session.MirrorsSlot false ⟨101⟩ := by
  intro start events history
  have bare : history.session.sets.get? ⟨101⟩ = none := by decide +kernel
  have written : (history.session.kernel.threads ⟨101⟩).legacy = 0x1006 := by decide +kernel
  refine ⟨by decide +kernel, by decide +kernel, bare, written, fun mirrors => ?_⟩
  have clear := mirrors.clear bare
  rw [written] at clear
  cases clear

end History

end DebugRegisters
