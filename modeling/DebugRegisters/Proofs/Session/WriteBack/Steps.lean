import DebugRegisters.Proofs.Session.Arrivals
import DebugRegisters.Proofs.ThreadPoints.Sets
import DebugRegisters.Proofs.ThreadPoints.Settled

/-!
# What keeps banks and tables together

On a kernel with register arrays, a bank of a thread that is not marked holds
exactly what its table says. The invariant covers every thread that did not
exit, tracked or not: a thread without points has nothing armed, which is what a
set made for it later starts from. Every operation that a session is made of
preserves it, whatever the kernel answers.
-/

set_option autoImplicit false

namespace DebugRegisters

open ThreadPoints (ArmedPairs)

namespace SimulatedKernel

/-- The armed pairs in a bank of a thread. A bank that was never written has none. -/
def armed (kernel : SimulatedKernel) (thread : ThreadId) (bank : RegisterBank) : ArmedPairs :=
  match (kernel.threads thread).bank bank with
  | none => []
  | some block => block.enabled

structure SameBanks (kernel after : SimulatedKernel) : Prop where
  facility : after.facility = kernel.facility
  vanished : after.vanished = kernel.vanished
  armed : after.armed = kernel.armed

theorem SameBanks.refl (kernel : SimulatedKernel) : kernel.SameBanks kernel :=
  ⟨rfl, rfl, rfl⟩

theorem SameBanks.trans {kernel middle after : SimulatedKernel} (first : kernel.SameBanks middle)
    (second : middle.SameBanks after) : kernel.SameBanks after :=
  ⟨second.facility.trans first.facility, second.vanished.trans first.vanished,
    second.armed.trans first.armed⟩

theorem Keeps.sameBanks {kernel after : SimulatedKernel} (keeps : kernel.Keeps after) :
    kernel.SameBanks after := by
  refine ⟨keeps.facility, keeps.vanished, ?_⟩
  funext thread bank
  simp only [armed, keeps.threads]

theorem sameBanks_update (kernel : SimulatedKernel) (thread : ThreadId)
    {change : ThreadRegisters → ThreadRegisters}
    (kept : ∀ registers bank, (change registers).bank bank = registers.bank bank) :
    kernel.SameBanks (kernel.update thread change) := by
  refine ⟨rfl, rfl, ?_⟩
  funext other bank
  unfold armed
  by_cases here : other = thread
  · rw [here, threads_update_self, kept]
  · rw [threads_update_of_ne _ _ here]

theorem deregister_sameBanks (kernel : SimulatedKernel) (thread : ThreadId) (handle : SlotHandle) :
    kernel.SameBanks (Kernel.deregister kernel thread handle).2 := by
  change kernel.SameBanks (kernel.deregister thread handle).2
  have entered := (enter_keeps kernel .deregister thread).sameBanks
  unfold SimulatedKernel.deregister
  split
  · next answered => rwa [answered] at entered
  · next answered =>
      rw [answered] at entered
      split
      · have dropped : ∀ (registers : ThreadRegisters) (bank : RegisterBank),
            (registers.drop handle.number).bank bank = registers.bank bank :=
          fun _ bank => by cases bank <;> rfl
        exact entered.trans (sameBanks_update _ thread dropped)
      · exact entered.trans ⟨rfl, rfl, rfl⟩

end SimulatedKernel

namespace Session

theorem dropRegistrations_sameBanks (report : SlotHandle → KernelError → Notice)
    (session : Session SimulatedKernel) (thread : ThreadId) (handles : List SlotHandle) :
    session.kernel.SameBanks (dropRegistrations report session thread handles).kernel := by
  induction handles generalizing session with
  | nil => exact .refl _
  | cons handle rest ih =>
      have dropped := SimulatedKernel.deregister_sameBanks session.kernel thread handle
      unfold dropRegistrations
      split
      · next kernel answered =>
          rw [answered] at dropped
          exact dropped.trans (ih { session with kernel })
      · next cause kernel answered =>
          rw [answered] at dropped
          exact dropped.trans (ih ({ session with kernel }.notify (report handle cause)))

theorem removeThread_sameBanks (session : Session SimulatedKernel) (thread : ThreadId) :
    session.kernel.SameBanks (session.removeThread thread).kernel := by
  obtain ⟨handles, notices, removed⟩ := removeThread_eq session thread
  rw [removed]
  exact dropRegistrations_sameBanks _ (session.forget thread) thread handles

/-- The banks of all threads that did not exit and are not lost hold what the
tables say, up to what is marked. -/
structure WrittenBack (caps : Capabilities) (exited : List ThreadId)
    (session : Session SimulatedKernel) : Prop where
  arrays : ∃ breakpoints watchpoints, session.kernel.facility = .arrays breakpoints watchpoints
  supported : session.kernel.facility.Supports caps
  sized : session.sets.All fun points => ∀ bank, (points.table bank).capacity = caps.slots bank
  staying : ∀ thread ∈ session.threads, thread ∉ exited
  settled : ∀ thread, thread ∉ exited → thread ∉ session.kernel.vanished →
    (session.pointsOf caps thread).SettledWith (session.kernel.armed thread)

namespace WrittenBack

variable {caps : Capabilities} {exited : List ThreadId} {session after : Session SimulatedKernel}

theorem deferred (written : session.WrittenBack caps exited) :
    caps.interface = .registerArray ∨ caps.interface = .unavailable := by
  obtain ⟨_, _, arrays⟩ := written.arrays
  exact Facility.Supports.deferred (arrays ▸ written.supported)

theorem few (written : session.WrittenBack caps exited) (bank : RegisterBank) :
    caps.slots bank ≤ Arm.maxSlots := by
  obtain ⟨_, _, arrays⟩ := written.arrays
  exact Facility.Supports.slots_le (arrays ▸ written.supported) bank

theorem capacity_empty (caps : Capabilities) (thread : ThreadId) (bank : RegisterBank) :
    ((ThreadPoints.empty thread caps).table bank).capacity = caps.slots bank := by
  cases bank <;> exact SlotTable.capacity_empty _ _

theorem capacity_pointsOf (written : session.WrittenBack caps exited) (thread : ThreadId)
    (bank : RegisterBank) : ((session.pointsOf caps thread).table bank).capacity = caps.slots bank := by
  unfold pointsOf
  cases found : session.sets.get? thread with
  | none => exact capacity_empty caps thread bank
  | some points => exact written.sized.get? found bank

theorem quiet (written : session.WrittenBack caps exited) (sets : after.sets = session.sets)
    (threads : after.threads = session.threads) (same : session.kernel.SameBanks after.kernel) :
    after.WrittenBack caps exited where
  arrays := same.facility ▸ written.arrays
  supported := same.facility ▸ written.supported
  sized := sets ▸ written.sized
  staying := threads ▸ written.staying
  settled thread staying there := by
    rw [same.vanished] at there
    rw [same.armed, pointsOf, sets]
    exact written.settled thread staying there

theorem replace (written : session.WrittenBack caps exited) {thread : ThreadId}
    {points : ThreadPoints} (threads : after.threads = session.threads)
    (same : session.kernel.SameBanks after.kernel)
    (self : after.sets.get? thread = some points)
    (others : ∀ other, other ≠ thread → after.sets.get? other = session.sets.get? other)
    (sized : after.sets.All fun points => ∀ bank, (points.table bank).capacity = caps.slots bank)
    (settled : thread ∉ exited → thread ∉ session.kernel.vanished →
      points.SettledWith (session.kernel.armed thread)) :
    after.WrittenBack caps exited where
  arrays := same.facility ▸ written.arrays
  supported := same.facility ▸ written.supported
  sized := sized
  staying := threads ▸ written.staying
  settled other staying there := by
    rw [same.vanished] at there
    rw [same.armed, pointsOf]
    by_cases here : other = thread
    · subst here
      rw [self]
      exact settled staying there
    · rw [others other here]
      exact written.settled other staying there

section Placing

variable {placement : Placement} {table : SlotTable} {side : KernelSide SimulatedKernel}

theorem sized_withTable (written : session.WrittenBack caps exited)
    (sized : table.capacity =
      ((session.pointsOf caps placement.thread).table placement.point.kind.bank).capacity) :
    (session.withTable caps placement table side).sets.All fun points =>
      ∀ bank, (points.table bank).capacity = caps.slots bank := by
  have made := written.sized.ensure (capacity_empty caps placement.thread)
  refine made.update fun points _ before bank => ?_
  by_cases here : bank = placement.point.kind.bank
  · subst here
    rw [ThreadPoints.table_setTable_self, sized, written.capacity_pointsOf]
  · rw [ThreadPoints.table_setTable_of_ne points table here]
    exact before bank

theorem sized_markSlot {index : Nat}
    (sized : session.sets.All fun points => ∀ bank, (points.table bank).capacity = caps.slots bank) :
    (session.markSlot placement index).sets.All fun points =>
      ∀ bank, (points.table bank).capacity = caps.slots bank :=
  sized.update fun points _ before bank => by
    rw [ThreadPoints.table_markDirty]
    exact before bank

theorem withTable (written : session.WrittenBack caps exited)
    (keeps : session.kernel.Keeps side.kernel)
    (sized : table.capacity =
      ((session.pointsOf caps placement.thread).table placement.point.kind.bank).capacity)
    (same : table.registerBlock =
      ((session.pointsOf caps placement.thread).table placement.point.kind.bank).registerBlock) :
    (session.withTable caps placement table side).WrittenBack caps exited :=
  written.replace rfl keeps.sameBanks (get?_withTable_self _ _ _ _ _)
    (fun _ different => get?_withTable_of_ne _ _ _ _ _ different) (written.sized_withTable sized)
    fun staying there => (written.settled placement.thread staying there).setTable sized same

theorem withTable_markSlot (written : session.WrittenBack caps exited)
    (keeps : session.kernel.Keeps side.kernel)
    (sized : table.capacity =
      ((session.pointsOf caps placement.thread).table placement.point.kind.bank).capacity)
    {index : Nat} (inside : index <
      ((session.pointsOf caps placement.thread).table placement.point.kind.bank).capacity) :
    ((session.withTable caps placement table side).markSlot placement index).WrittenBack caps
      exited := by
  have few := written.capacity_pointsOf placement.thread placement.point.kind.bank ▸
    written.few placement.point.kind.bank
  have marked : ((session.withTable caps placement table side).markSlot placement index).sets.get?
      placement.thread = some (((session.pointsOf caps placement.thread).setTable
        placement.point.kind.bank table).markDirty placement.point.kind.bank index) := by
    rw [get?_markSlot_self, get?_withTable_self]
    rfl
  refine written.replace rfl keeps.sameBanks marked ?_ (sized_markSlot (written.sized_withTable sized))
    fun staying there =>
      (written.settled placement.thread staying there).setTable_mark sized inside few
  intro other different
  rw [get?_markSlot_of_ne _ _ different, get?_withTable_of_ne _ _ _ _ _ different]

end Placing

/-- The kernel's part of taking a slot changes no kernel with register arrays. -/
theorem takeSlot_keeps (written : session.WrittenBack caps exited) (thread : ThreadId)
    (kernel : SimulatedKernel) (side : KernelSide SimulatedKernel) (point : EncodedPoint)
    (before : kernel.Keeps side.kernel) :
    kernel.Keeps (KernelSide.takeSlot caps thread side point).2.kernel := by
  rw [KernelSide.takeSlot_of_deferred written.deferred]
  exact before

theorem giveUp_keeps (written : session.WrittenBack caps exited) (thread : ThreadId)
    (kernel : SimulatedKernel) (state : KernelSide SimulatedKernel × List Notice)
    (handle : Option SlotHandle) (before : kernel.Keeps state.1.kernel) :
    kernel.Keeps (giveUp caps thread state handle).2.1.kernel := by
  rw [giveUp, KernelSide.giveUpSlot_of_deferred written.deferred]
  exact before

/-- Without register arrays there are no slots, so no point can be taken. -/
theorem arrays_of_index (written : session.WrittenBack caps exited) {thread : ThreadId}
    {bank : RegisterBank} {index : Nat}
    (inside : index < ((session.pointsOf caps thread).table bank).capacity) :
    caps.interface = .registerArray := by
  rcases written.deferred with arrays | nothing
  · exact arrays
  · rw [written.capacity_pointsOf, written.supported.slots_of_unavailable nothing] at inside
    exact absurd inside (Nat.not_lt_zero _)

theorem install (written : session.WrittenBack caps exited) (placement : Placement) :
    (Session.install caps session placement).2.WrittenBack caps exited := by
  have paused := SimulatedKernel.pause_keeps session.kernel placement.thread
  have installed := installs caps session placement
  generalize Session.install caps session placement = outcome at installed
  cases installed with
  | running answered =>
      rw [answered] at paused
      exact written.quiet rfl rfl paused.sameBanks
  | refused answered inserted =>
      rw [answered] at paused
      have keeps := inserted.keeps_side (written.takeSlot_keeps placement.thread session.kernel)
        paused
      rw [inserted.unchanged]
      exact written.withTable keeps rfl rfl
  | held notices answered inserted settled =>
      rw [answered] at paused
      have keeps := inserted.keeps_side (written.takeSlot_keeps placement.thread session.kernel)
        paused
      have shared := settled.resolve_right fun other =>
        other (written.arrays_of_index inserted.index_lt)
      exact (written.withTable keeps inserted.capacity (inserted.registerBlock shared)).quiet rfl rfl
        (.refl _)
  | marked notices answered inserted arrays =>
      rw [answered] at paused
      have keeps := inserted.keeps_side (written.takeSlot_keeps placement.thread session.kernel)
        paused
      exact (written.withTable_markSlot keeps inserted.capacity inserted.index_lt).quiet rfl rfl
        (.refl _)

theorem uninstall (written : session.WrittenBack caps exited) (placement : Placement) :
    (Session.uninstall caps session placement).2.WrittenBack caps exited := by
  have start := SimulatedKernel.Keeps.refl session.kernel
  have uninstalled := uninstalls caps session placement
  generalize Session.uninstall caps session placement = outcome at uninstalled
  have current : ∀ {points : ThreadPoints}, session.sets.get? placement.thread = some points →
      session.pointsOf caps placement.thread = points := by
    intro points there
    rw [pointsOf, there, Option.getD_some]
  cases uninstalled with
  | absent missing => exact written
  | refused notices there present removed =>
      have keeps := removed.keeps_side (written.giveUp_keeps placement.thread session.kernel) start
      rw [removed.unchanged]
      rw [← current there]
      exact (written.withTable keeps rfl rfl).quiet rfl rfl (.refl _)
  | dropped notices there removed settled =>
      have keeps := removed.keeps_side (written.giveUp_keeps placement.thread session.kernel) start
      rw [← current there] at removed
      have shared := settled.resolve_right fun other =>
        other (written.arrays_of_index removed.index_lt)
      exact (written.withTable keeps removed.capacity (removed.registerBlock shared)).quiet rfl rfl
        (.refl _)
  | marked notices there removed arrays =>
      have keeps := removed.keeps_side (written.giveUp_keeps placement.thread session.kernel) start
      rw [← current there] at removed
      exact (written.withTable_markSlot keeps removed.capacity removed.index_lt).quiet rfl rfl
        (.refl _)

theorem ensure (written : session.WrittenBack caps exited) (thread : ThreadId) :
    { session with sets := session.sets.ensure thread caps }.WrittenBack caps exited := by
  refine written.replace rfl (.refl _) (ThreadSets.get?_ensure_self _ _ _)
    (fun _ different => ThreadSets.get?_ensure_of_ne _ _ different)
    (written.sized.ensure (capacity_empty caps thread)) ?_
  exact written.settled thread

section Resuming

variable {thread : ThreadId} {bank : RegisterBank}

theorem attempt (written : session.WrittenBack caps exited) {points : ThreadPoints}
    (found : session.sets.get? thread = some points)
    {outcome : Outcome SimulatedKernel Unit} (attempted : Attempts session thread bank outcome) :
    outcome.2.WrittenBack caps exited := by
  have writes := SimulatedKernel.writes_writeRegisters session.kernel thread bank
    (session.bankBlock thread bank)
  cases attempted with
  | failed wrote =>
      rw [wrote] at writes
      cases writes with
      | failed keeps => exact written.quiet rfl rfl keeps.sameBanks
  | @written kernel wrote =>
      rw [wrote] at writes
      cases writes with
      | written follows there self others =>
          have keepsThread : ∀ points : ThreadPoints,
              (points.clearDirty bank).thread = points.thread := fun points =>
            ThreadPoints.thread_clearDirty points bank
          refine ⟨follows.facility ▸ written.arrays, follows.facility ▸ written.supported,
            ?_, written.staying, fun other staying present => ?_⟩
          · refine written.sized.update fun points _ before bank => ?_
            rw [ThreadPoints.table_clearDirty]
            exact before bank
          · have present : other ∉ session.kernel.vanished := follows.vanished ▸ present
            have settled := written.settled other staying present
            by_cases here : other = thread
            · subst here
              have current : (session.sets.update other fun points => points.clearDirty bank).get?
                  other = some (points.clearDirty bank) := by
                rw [ThreadSets.get?_update_self keepsThread, found]
                rfl
              rw [pointsOf, found] at settled
              change (((session.sets.update other fun points => points.clearDirty bank).get?
                other).getD _).SettledWith (kernel.armed other)
              rw [current]
              refine settled.clearDirty ?_ fun different apart => ?_
              · rw [bankBlock_of_get? found] at self
                simp only [SimulatedKernel.armed, self, Option.getD_some]
                cases bank <;> rfl
              · simp only [SimulatedKernel.armed, self]
                cases bank <;> cases different <;> first | rfl | exact absurd rfl apart
            · have current : (session.sets.update thread fun points => points.clearDirty bank).get?
                  other = session.sets.get? other :=
                ThreadSets.get?_update_of_ne keepsThread _ here
              have armed : kernel.armed other = session.kernel.armed other := by
                funext bank
                simp only [SimulatedKernel.armed, others other here]
              change (((session.sets.update thread fun points => points.clearDirty bank).get?
                other).getD _).SettledWith (kernel.armed other)
              rw [current, armed]
              exact settled

theorem restrictTo (written : session.WrittenBack caps exited) (restriction : Restriction) :
    (session.restrictTo restriction).WrittenBack caps exited := by
  have restricted : WrittenBack caps exited
      { session.notify (.degraded restriction.table) with
        restriction
        sets := session.sets.map fun points => points.restrict restriction.table } := by
    refine ⟨written.arrays, written.supported, ?_, written.staying, fun thread staying there => ?_⟩
    · refine written.sized.map fun points before bank => ?_
      cases bank with
      | breakpoints =>
          rw [ThreadPoints.table_restrict_breakpoints]
          exact before .breakpoints
      | watchpoints =>
          rw [ThreadPoints.table_restrict_watchpoints, SlotTable.capacity_mapPoints]
          exact before .watchpoints
    · have settled := written.settled thread staying there
      have few := written.capacity_pointsOf thread .watchpoints ▸ written.few .watchpoints
      change (((session.sets.map fun points => points.restrict restriction.table).get?
        thread).getD _).SettledWith (session.kernel.armed thread)
      rw [ThreadSets.get?_map (fun points => ThreadPoints.thread_restrict points restriction.table)]
      unfold pointsOf at settled few
      cases found : session.sets.get? thread with
      | none =>
          rw [found] at settled
          exact settled
      | some points =>
          rw [found] at settled few
          exact settled.restrict few restriction.table
  unfold Session.restrictTo showRegisters
  dsimp only
  split
  · exact restricted.quiet rfl rfl (.refl _)
  · exact restricted

theorem flushBank (written : session.WrittenBack caps exited) (thread : ThreadId)
    (bank : RegisterBank) : (session.flushBank thread bank).2.WrittenBack caps exited := by
  have flushed := flushes session thread bank
  generalize session.flushBank thread bank = outcome at flushed
  cases flushed with
  | clean => exact written
  | once dirty attempted =>
      obtain ⟨points, found, _⟩ := dirty
      exact written.attempt found attempted
  | @twice kernel _ dirty watched capable wrote attempted =>
      obtain ⟨points, found, _⟩ := dirty
      have writes := SimulatedKernel.writes_writeRegisters session.kernel thread .watchpoints
        (session.bankBlock thread .watchpoints)
      rw [wrote] at writes
      cases writes with
      | failed keeps =>
          have before : { session with kernel }.WrittenBack caps exited :=
            written.quiet rfl rfl keeps.sameBanks
          have restricted := before.restrictTo { session.restriction with state := .degraded }
          have current : (({ session with kernel }.restrictTo
              { session.restriction with state := .degraded }).sets.get? thread) =
              some (points.restrict session.restriction.table) := by
            rw [sets_restrictTo, ThreadSets.get?_map
              (fun points => ThreadPoints.thread_restrict points _), found]
            rfl
          exact restricted.attempt current attempted

theorem flushBanks (written : session.WrittenBack caps exited) (thread : ThreadId)
    (banks : List RegisterBank) : (session.flushBanks thread banks).2.WrittenBack caps exited := by
  induction banks generalizing session with
  | nil => exact written
  | cons bank rest ih =>
      have first := written.flushBank thread bank
      unfold Session.flushBanks
      split
      · next failed => rwa [failed] at first
      · next flushed answered =>
          rw [answered] at first
          exact ih first

end Resuming

theorem keptByChanges (caps : Capabilities) (exited : List ThreadId) :
    KeptByChanges caps (WrittenBack caps exited) where
  quiet written _ := written.quiet rfl rfl (.refl _)
  ensure written thread _ := written.ensure thread
  install written placement _ := written.install placement
  uninstall written placement _ := written.uninstall placement

section Threads

variable {thread : ThreadId}

theorem removeThread (written : session.WrittenBack caps exited) (thread : ThreadId) :
    (session.removeThread thread).WrittenBack caps (thread :: exited) := by
  have forgotten : (session.forget thread).WrittenBack caps (thread :: exited) := by
    refine ⟨written.arrays, written.supported, written.sized.erase thread, ?_, ?_⟩
    · intro other member
      unfold forget at member
      rw [List.mem_filter] at member
      rw [List.mem_cons, not_or]
      exact ⟨by simpa using member.2, written.staying other member.1⟩
    · intro other kept there
      rw [List.mem_cons, not_or] at kept
      have points : (session.forget thread).pointsOf caps other = session.pointsOf caps other := by
        simp only [pointsOf, forget, ThreadSets.get?_erase_of_ne _ kept.1]
      rw [points]
      exact written.settled other kept.2 there
  have same := removeThread_sameTables session thread
  exact forgotten.quiet same.sets same.threads (removeThread_sameBanks session thread)

/-- The set for a new thread is marked throughout, so nothing is known about its
banks, and nothing need be. -/
theorem insertCopy (written : session.WrittenBack caps exited) {pattern : ThreadPoints}
    (model : ∀ bank, (pattern.table bank).capacity = caps.slots bank) (thread : ThreadId) :
    WrittenBack caps exited
      { session with sets := session.sets.insert (.markAllDirty (.inherit thread pattern)) } := by
  have sized : ∀ bank, ((ThreadPoints.inherit thread pattern).table bank).capacity =
      caps.slots bank := by
    intro bank
    rw [ThreadPoints.table_inherit]
    exact model bank
  refine written.replace rfl (.refl _) (ThreadSets.get?_insert_self _ _)
    (fun other different => ThreadSets.get?_insert_of_ne _ _ different)
    (written.sized.insert fun bank => ?_) fun staying there => ?_
  · rw [ThreadPoints.table_markAllDirty]
    exact sized bank
  · refine ThreadPoints.settledWith_markAllDirty (fun bank => sized bank ▸ written.few bank)
      fun bank none => ?_
    have bare : ((session.pointsOf caps thread).table bank).capacity = 0 := by
      rw [written.capacity_pointsOf, ← sized bank, none]
    have clean := written.settled thread staying there bank (.inr bare)
    rw [ThreadPoints.enabled_of_capacity_eq_zero bare] at clean
    exact clean

theorem equip (written : session.WrittenBack caps exited) {pattern : Option ThreadPoints}
    (model : ∀ points, pattern = some points → ∀ bank, (points.table bank).capacity =
      caps.slots bank) (thread : ThreadId) :
    (Session.equip caps session thread pattern).1 = .ok () ∧
      (Session.equip caps session thread pattern).2.WrittenBack caps exited := by
  rcases written.deferred with interface | interface
  · cases pattern with
    | none =>
        simp only [Session.equip, interface]
        exact ⟨trivial, written⟩
    | some points =>
        simp only [Session.equip, interface]
        exact ⟨trivial, written.insertCopy (model points rfl) thread⟩
  · cases pattern <;> simp only [Session.equip, interface] <;> exact ⟨trivial, written⟩

theorem follow (written : session.WrittenBack caps exited) (fresh : thread ∉ exited) :
    (session.follow thread).WrittenBack caps exited := by
  unfold Session.follow
  split
  · exact written
  · refine ⟨written.arrays, written.supported, written.sized, fun other member => ?_,
      written.settled⟩
    rcases List.mem_append.mp member with before | added
    · exact written.staying other before
    · exact List.mem_singleton.mp added ▸ fresh

end Threads

end WrittenBack

end Session

end DebugRegisters
