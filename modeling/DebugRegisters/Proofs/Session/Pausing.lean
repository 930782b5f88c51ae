import DebugRegisters.Proofs.Session.Requests
import DebugRegisters.Proofs.Session.Taking

/-!
# Threads that are stopped before they are touched

Placing a point stops the thread before its registers are touched, and so does
registering the points of a new one. Giving a point up stops nothing, and neither
does the copy of the data breakpoint register for a new thread. So a removal
touches threads as it finds them, and all else that an operation touches was
stopped by an earlier call of the same operation.
-/

set_option autoImplicit false

namespace DebugRegisters

def KernelCall.touchesRegisters : KernelCall → Bool
  | .register | .deregister | .writeLegacy | .writeRegisters => true
  | .debugInfo | .readRegisters | .lastTrap | .pause => false

namespace CallRecord

def stop (thread : ThreadId) : CallRecord := ⟨.pause, thread, none⟩

/-- The registers of a thread are touched only after the thread was stopped, by a
call among `earlier` or among `calls`. -/
def StoppedFirst (earlier calls : List CallRecord) : Prop :=
  ∀ before record after, calls = before ++ record :: after →
    record.call.touchesRegisters = true → stop record.thread ∈ earlier ++ before

section StoppedFirst

variable {earlier more calls rest : List CallRecord} {record : CallRecord}

theorem stoppedFirst_nil (earlier : List CallRecord) : StoppedFirst earlier [] := by
  intro before record after split
  simp at split

theorem stoppedFirst_cons_iff : StoppedFirst earlier (record :: rest) ↔
    (record.call.touchesRegisters = true → stop record.thread ∈ earlier) ∧
      StoppedFirst (earlier ++ [record]) rest := by
  constructor
  · intro stopped
    refine ⟨fun touches => ?_, fun before other after split touches => ?_⟩
    · simpa using stopped [] record rest rfl touches
    · rw [List.append_assoc]
      exact stopped (record :: before) other after (by simp [split]) touches
  · rintro ⟨first, later⟩ before other after split touches
    cases before with
    | nil =>
        obtain ⟨rfl, rfl⟩ := List.cons.inj split
        simpa using first touches
    | cons head before =>
        obtain ⟨rfl, rfl⟩ := List.cons.inj split
        have found := later before other after rfl touches
        rwa [List.append_assoc] at found

theorem StoppedFirst.append (first : StoppedFirst earlier calls)
    (second : StoppedFirst (earlier ++ calls) rest) : StoppedFirst earlier (calls ++ rest) := by
  induction calls generalizing earlier with
  | nil => simpa using second
  | cons record calls ih =>
      obtain ⟨stopped, later⟩ := stoppedFirst_cons_iff.mp first
      refine stoppedFirst_cons_iff.mpr ⟨stopped, ih later ?_⟩
      rwa [List.append_assoc]

theorem StoppedFirst.mono (stopped : StoppedFirst earlier calls) (among : earlier ⊆ more) :
    StoppedFirst more calls := by
  intro before record after split touches
  rcases List.mem_append.mp (stopped before record after split touches) with there | here
  · exact List.mem_append_left _ (among there)
  · exact List.mem_append_right _ here

theorem stoppedFirst_of_stopped {thread : ThreadId} (stopped : stop thread ∈ earlier)
    (same : ∀ record ∈ calls, record.thread = thread) : StoppedFirst earlier calls := by
  intro before record after split _
  rw [same record (split ▸ List.mem_append_right _ List.mem_cons_self)]
  exact List.mem_append_left _ stopped

end StoppedFirst

def GivesUpOn (thread : ThreadId) (record : CallRecord) : Prop :=
  record.thread = thread ∧ (record.call = .deregister ∨ record.call = .writeLegacy)

end CallRecord

namespace SimulatedKernel

open CallRecord

def CallsOnly (such : CallRecord → Prop) (kernel after : SimulatedKernel) : Prop :=
  ∃ made, after.calls = kernel.calls ++ made ∧ ∀ record ∈ made, such record

section CallsOnly

variable {kernel middle after : SimulatedKernel} {thread : ThreadId} {such : CallRecord → Prop}

theorem CallsOnly.refl (such : CallRecord → Prop) (kernel : SimulatedKernel) :
    CallsOnly such kernel kernel :=
  ⟨[], by simp, by simp⟩

theorem CallsOnly.trans (first : CallsOnly such kernel middle)
    (second : CallsOnly such middle after) : CallsOnly such kernel after := by
  obtain ⟨early, made, same⟩ := first
  obtain ⟨late, also, too⟩ := second
  exact ⟨early ++ late, by rw [also, made, List.append_assoc],
    List.forall_mem_append.mpr ⟨same, too⟩⟩

theorem CallsOnly.mono {wider : CallRecord → Prop} (called : CallsOnly such kernel after)
    (weaker : ∀ record, such record → wider record) : CallsOnly wider kernel after := by
  obtain ⟨made, calls, same⟩ := called
  exact ⟨made, calls, fun record member => weaker record (same record member)⟩

theorem Enters.callsOnly {call : KernelCall} {error : Option KernelError}
    (entered : kernel.Enters call thread error after) (fitting : such ⟨call, thread, error⟩) :
    CallsOnly such kernel after :=
  ⟨[⟨call, thread, error⟩], entered.calls, by simpa using fitting⟩

/-- Whatever is registered for a thread, all calls are for that thread. -/
theorem acrossRegistrations_callsOnly (thread : ThreadId) :
    AcrossRegistrations thread (CallsOnly (·.thread = thread)) where
  refl := .refl _
  trans := .trans
  register kernel point := by
    have outcome := registers kernel thread point
    generalize Kernel.register kernel thread point = reply at outcome
    cases outcome with
    | refused entered | full entered | foreign entered => exact entered.callsOnly rfl
    | registered entered => exact entered.callsOnly rfl
  deregister kernel handle := by
    have outcome := deregisters kernel thread handle
    generalize Kernel.deregister kernel thread handle = reply at outcome
    cases outcome with
    | refused entered | unknown entered => exact entered.callsOnly rfl
    | dropped entered => exact entered.callsOnly rfl

theorem callsOnly_takeSlot (caps : Capabilities) (thread : ThreadId)
    (side : KernelSide SimulatedKernel) (point : EncodedPoint) :
    CallsOnly (·.thread = thread) side.kernel
      (KernelSide.takeSlot caps thread side point).2.kernel := by
  have taken := KernelSide.takes caps thread side point
  generalize KernelSide.takeSlot caps thread side point = outcome at taken
  cases taken with
  | deferred => exact .refl _ _
  | registered handles begun => exact begun.callsOnly rfl
  | unregistered handles refused =>
      cases refused with
      | refused entered | full entered | foreign entered => exact entered.callsOnly rfl
  | written legacy begun => exact begun.callsOnly rfl
  | unwritten legacy begun => exact begun.callsOnly rfl

theorem callsOnly_giveUpSlot (caps : Capabilities) (thread : ThreadId)
    (side : KernelSide SimulatedKernel) (handle : Option SlotHandle) :
    CallsOnly (GivesUpOn thread) side.kernel
      (KernelSide.giveUpSlot caps thread side handle).2.1.kernel := by
  have given := KernelSide.givesUp caps thread side handle
  generalize KernelSide.giveUpSlot caps thread side handle = outcome at given
  cases given with
  | apart => exact .refl _ _
  | dropped _ _ begun => exact begun.callsOnly ⟨rfl, .inl rfl⟩
  | gone _ _ _ refused | undropped _ _ _ refused =>
      cases refused with
      | refused entered | unknown entered => exact entered.callsOnly ⟨rfl, .inl rfl⟩
  | cleared _ begun => exact begun.callsOnly ⟨rfl, .inr rfl⟩
  | uncleared _ begun => exact begun.callsOnly ⟨rfl, .inr rfl⟩

end CallsOnly

section StopsFirst

variable {kernel middle after : SimulatedKernel} {thread : ThreadId}

/-- From `kernel` to `after`, no thread was touched that was not stopped, by a
call among `earlier` or by one in between. -/
def StopsFirst (earlier : List CallRecord) (kernel after : SimulatedKernel) : Prop :=
  ∃ made, after.calls = kernel.calls ++ made ∧ StoppedFirst earlier made

theorem StopsFirst.refl (earlier : List CallRecord) (kernel : SimulatedKernel) :
    StopsFirst earlier kernel kernel :=
  ⟨[], by simp, stoppedFirst_nil earlier⟩

theorem StopsFirst.trans {earlier : List CallRecord} (first : StopsFirst earlier kernel middle)
    (second : StopsFirst earlier middle after) : StopsFirst earlier kernel after := by
  obtain ⟨early, made, stopped⟩ := first
  obtain ⟨late, also, too⟩ := second
  exact ⟨early ++ late, by rw [also, made, List.append_assoc],
    stopped.append (too.mono (List.subset_append_left _ _))⟩

theorem CallsOnly.stopsFirst {earlier : List CallRecord}
    (called : CallsOnly (·.thread = thread) kernel after) (stopped : stop thread ∈ earlier) :
    StopsFirst earlier kernel after := by
  obtain ⟨made, calls, same⟩ := called
  exact ⟨made, calls, stoppedFirst_of_stopped stopped same⟩

/-- What is done to a thread once it was stopped. -/
theorem Enters.stopsFirst (paused : kernel.Enters .pause thread none middle)
    (called : CallsOnly (·.thread = thread) middle after) :
    ∃ made, after.calls = kernel.calls ++ made ∧ StoppedFirst [] made ∧ stop thread ∈ made := by
  obtain ⟨made, calls, same⟩ := called
  refine ⟨stop thread :: made, ?_, ?_, List.mem_cons_self⟩
  · rw [calls, paused.calls, List.append_assoc]
    rfl
  · refine stoppedFirst_cons_iff.mpr ⟨nofun, ?_⟩
    exact stoppedFirst_of_stopped (List.mem_append_right _ List.mem_cons_self) same

theorem Enters.stopsFirst_of_refused {cause : KernelError}
    (refused : kernel.Enters .pause thread (some cause) after) : StopsFirst [] kernel after :=
  ⟨_, refused.calls, stoppedFirst_cons_iff.mpr ⟨nofun, stoppedFirst_nil _⟩⟩

end StopsFirst

end SimulatedKernel

namespace Session

open CallRecord SimulatedKernel

section Changes

variable {caps : Capabilities} {session : Session SimulatedKernel}

/-- A point is placed on a thread that was stopped for it. -/
theorem install_stopsFirst (caps : Capabilities) (session : Session SimulatedKernel)
    (placement : Placement) :
    ∃ made, (install caps session placement).2.kernel.calls = session.kernel.calls ++ made ∧
      StoppedFirst [] made ∧
      ((install caps session placement).1 = .ok () → stop placement.thread ∈ made) := by
  have admitted := admits_pause session.kernel placement.thread
  have installed := installs caps session placement
  generalize install caps session placement = outcome at installed
  have taken : ∀ {kernel : SimulatedKernel} {table : SlotTable} {side : KernelSide SimulatedKernel}
      {result : Except PointError Insertion},
      Kernel.pause session.kernel placement.thread = (.ok (), kernel) →
      ((session.pointsOf caps placement.thread).table placement.point.kind.bank).Inserts
        placement.point ⟨kernel, session.legacyValue⟩ (KernelSide.takeSlot caps placement.thread)
        (result, table, side) →
      ∃ made, side.kernel.calls = session.kernel.calls ++ made ∧ StoppedFirst [] made ∧
        stop placement.thread ∈ made := by
    intro kernel table side result paused inserted
    rw [paused] at admitted
    cases admitted with
    | admitted entered =>
        have kept : ∀ (side : KernelSide SimulatedKernel) (point : EncodedPoint),
            CallsOnly (·.thread = placement.thread) kernel side.kernel →
            CallsOnly (·.thread = placement.thread) kernel
              (KernelSide.takeSlot caps placement.thread side point).2.kernel :=
          fun side point before => before.trans (callsOnly_takeSlot _ _ _ _)
        exact entered.stopsFirst (inserted.keeps_side kept (.refl _ kernel))
  cases installed with
  | running paused =>
      rw [paused] at admitted
      cases admitted with
      | refused entered =>
          obtain ⟨made, calls, stopped⟩ := entered.stopsFirst_of_refused
          exact ⟨made, calls, stopped, nofun⟩
  | refused paused inserted | held _ paused inserted | marked _ paused inserted =>
      obtain ⟨made, calls, stopped, there⟩ := taken paused inserted
      exact ⟨made, calls, stopped, fun _ => there⟩

/-- A point is given up on a thread as it is found. -/
theorem uninstall_callsOnly (caps : Capabilities) (session : Session SimulatedKernel)
    (placement : Placement) :
    CallsOnly (GivesUpOn placement.thread) session.kernel
      (uninstall caps session placement).2.kernel := by
  have given : ∀ (state : KernelSide SimulatedKernel × List Notice) (handle : Option SlotHandle),
      CallsOnly (GivesUpOn placement.thread) session.kernel state.1.kernel →
      CallsOnly (GivesUpOn placement.thread) session.kernel
        (giveUp caps placement.thread state handle).2.1.kernel :=
    fun state handle before => before.trans (callsOnly_giveUpSlot _ _ _ _)
  have start : CallsOnly (GivesUpOn placement.thread) session.kernel session.kernel := .refl _ _
  have uninstalled := uninstalls caps session placement
  generalize uninstall caps session placement = outcome at uninstalled
  cases uninstalled with
  | absent missing => exact start
  | refused _ there present removed => exact removed.keeps_side given start
  | dropped _ there removed | marked _ there removed => exact removed.keeps_side given start

/-- What a rolled back insertion gives up, it had stopped to place it. -/
theorem rollback_stopsFirst {earlier : List CallRecord} {done : List Placement}
    (stopped : ∀ placement ∈ done, stop placement.thread ∈ earlier) :
    StopsFirst earlier session.kernel (rollback caps session done).kernel := by
  induction done generalizing session with
  | nil => exact .refl earlier session.kernel
  | cons placement rest ih =>
      obtain ⟨here, later⟩ := List.forall_mem_cons.mp stopped
      have given := (uninstall_callsOnly caps session placement).mono fun _ release => release.1
      have first := given.stopsFirst here
      unfold rollback
      split <;> next outcome =>
        rw [outcome] at first
        exact first.trans (ih later)

/-- Points that are restored stop their threads again. -/
theorem restore_stopsFirst (done : List Placement) :
    StopsFirst [] session.kernel (restore caps session done).kernel := by
  induction done generalizing session with
  | nil => exact .refl [] session.kernel
  | cons placement rest ih =>
      obtain ⟨made, calls, stopped, _⟩ := install_stopsFirst caps session placement
      have first : StopsFirst [] session.kernel (install caps session placement).2.kernel :=
        ⟨made, calls, stopped⟩
      unfold restore
      split <;> next outcome =>
        rw [outcome] at first
        exact first.trans ih

theorem installAll_stopsFirst {earlier : List CallRecord} {done placements : List Placement}
    (stopped : ∀ placement ∈ done, stop placement.thread ∈ earlier) :
    StopsFirst earlier session.kernel (installAll caps done session placements).2.kernel := by
  induction placements generalizing session done earlier with
  | nil => exact .refl earlier session.kernel
  | cons placement rest ih =>
      obtain ⟨made, calls, first, there⟩ := install_stopsFirst caps session placement
      have before : ∀ placement ∈ done, stop placement.thread ∈ earlier ++ made :=
        fun placement member => List.mem_append_left _ (stopped placement member)
      unfold installAll
      split
      · next outcome =>
          rw [outcome] at calls there
          obtain ⟨more, further, later⟩ := ih (List.forall_mem_cons.mpr
            ⟨List.mem_append_right _ (there rfl), before⟩)
          exact ⟨made ++ more, by rw [further, calls, List.append_assoc],
            (first.mono (List.nil_subset _)).append later⟩
      · next outcome =>
          rw [outcome] at calls
          obtain ⟨more, further, later⟩ := rollback_stopsFirst before
          exact ⟨made ++ more, by rw [further]; exact calls ▸ List.append_assoc _ _ _,
            (first.mono (List.nil_subset _)).append later⟩

def GivesUpOrRestores (kernel : SimulatedKernel) (outcome : Outcome SimulatedKernel Unit) : Prop :=
  ∃ given restored, outcome.2.kernel.calls = kernel.calls ++ (given ++ restored) ∧
    (∀ record ∈ given, record.call = .deregister ∨ record.call = .writeLegacy) ∧
    StoppedFirst [] restored ∧ (restored = [] ∨ ∃ error, outcome.1 = .error error)

theorem uninstallAll_calls (done placements : List Placement) :
    GivesUpOrRestores session.kernel (uninstallAll caps done session placements) := by
  induction placements generalizing session done with
  | nil => exact ⟨[], [], by simp [uninstallAll], by simp, stoppedFirst_nil [], .inl rfl⟩
  | cons placement rest ih =>
      obtain ⟨given, calls, releases⟩ := uninstall_callsOnly caps session placement
      have kinds : ∀ record ∈ given, record.call = .deregister ∨ record.call = .writeLegacy :=
        fun record member => (releases record member).2
      unfold uninstallAll
      split
      · next outcome =>
          rw [outcome] at calls
          obtain ⟨more, restored, further, also, stopped, success⟩ := @ih _ (placement :: done)
          exact ⟨given ++ more, restored, by rw [further, calls]; simp only [List.append_assoc],
            List.forall_mem_append.mpr ⟨kinds, also⟩, stopped, success⟩
      · next outcome =>
          rw [outcome] at calls
          obtain ⟨more, restored, further, also, stopped, success⟩ := @ih _ done
          exact ⟨given ++ more, restored, by rw [further, calls]; simp only [List.append_assoc],
            List.forall_mem_append.mpr ⟨kinds, also⟩, stopped, success⟩
      · next cause _ outcome =>
          rw [outcome] at calls
          obtain ⟨restored, further, stopped⟩ := restore_stopsFirst done
          refine ⟨given, restored, ?_, kinds, stopped, .inr ⟨cause, rfl⟩⟩
          rw [further]
          exact calls ▸ List.append_assoc _ _ _

theorem insertPoints_stopsFirst (points : List EncodedPoint) :
    StopsFirst [] session.kernel (insertPoints caps session points).2.kernel := by
  have start : StopsFirst [] session.kernel session.kernel := .refl [] session.kernel
  unfold insertPoints
  split
  · exact start
  · next first rest =>
      split
      · exact start
      · next sets _ =>
          have installed := @installAll_stopsFirst caps { session with sets } [] []
            (session.placements (first :: rest)) (by simp)
          split <;> next outcome =>
            rw [outcome] at installed
            simpa [kernel_showRegisters] using installed

theorem removePoints_calls (points : List EncodedPoint) :
    GivesUpOrRestores session.kernel (removePoints caps session points) := by
  have removed := @uninstallAll_calls caps session [] (session.placements points)
  unfold removePoints
  split <;> next outcome =>
    rw [outcome] at removed
    simpa [GivesUpOrRestores, kernel_showRegisters] using removed

end Changes

section Arrivals

variable {caps : Capabilities} {session : Session SimulatedKernel}

/-- A new thread is stopped before points are registered for it. -/
theorem replicate_stopsFirst (thread : ThreadId) (pattern : ThreadPoints) :
    StopsFirst [] session.kernel (session.replicate thread pattern).2.kernel := by
  have admitted := admits_pause session.kernel thread
  unfold replicate
  split
  · next cause kernel paused =>
      rw [paused] at admitted
      cases admitted with
      | refused entered => exact entered.stopsFirst_of_refused
  · next kernel paused =>
      rw [paused] at admitted
      cases admitted with
      | admitted entered =>
          obtain ⟨made, calls, stopped, _⟩ := entered.stopsFirst
            ((acrossRegistrations_callsOnly thread).registerBanks (.inherit thread pattern) []
              { session with kernel } RegisterBank.all)
          exact ⟨made, calls, stopped⟩

theorem equip_stopsFirst (other : caps.interface ≠ .legacy) (thread : ThreadId)
    (pattern : Option ThreadPoints) :
    StopsFirst [] session.kernel (equip caps session thread pattern).2.kernel := by
  unfold equip
  split
  · next pattern _ =>
      have replicated := @replicate_stopsFirst session thread pattern
      split <;> next outcome => rwa [outcome] at replicated
  · exact .refl [] session.kernel
  · next _ legacy => exact absurd legacy other
  · exact .refl [] session.kernel

/-- The data breakpoint register of a new thread is written as the thread is found. -/
theorem equip_calls_of_legacy (legacy : caps.interface = .legacy) (thread : ThreadId)
    (pattern : Option ThreadPoints) :
    ∃ error, (equip caps session thread pattern).2.kernel.calls =
      session.kernel.calls ++ [⟨.writeLegacy, thread, error⟩] := by
  have outcome := writesLegacy session.kernel thread session.legacyValue
  simp only [equip, legacy]
  generalize Kernel.writeLegacy session.kernel thread session.legacyValue = reply at outcome
  cases outcome with
  | refused entered => exact ⟨_, by cases pattern <;> exact entered.calls⟩
  | written entered => exact ⟨_, by cases pattern <;> exact entered.calls⟩

theorem kernel_addThread (session : Session SimulatedKernel) (thread : ThreadId) :
    (session.addThread thread).2.kernel =
      (equip session.capabilities.1 (session.announce thread) thread
        (session.pattern? thread)).2.kernel := by
  rw [addThread_eq]
  split
  · next failed => rw [failed]
  · next answered => rw [answered, kernel_follow_showRegisters]

end Arrivals

/-- Whatever an insertion touches, it has stopped before, and so is it with the
points of a new thread, unless the data breakpoint register is copied to it. A
removal stops nothing for what it gives up, and everything for what it restores. -/
theorem changes_stop_threads_first (session : Session SimulatedKernel) :
    (∀ demand, StopsFirst [] session.capabilities.2.kernel
      (session.insertDemand demand).2.kernel) ∧
    (∀ demand, ∃ given restored,
      (session.removeDemand demand).2.kernel.calls =
        session.capabilities.2.kernel.calls ++ (given ++ restored) ∧
      (∀ record ∈ given, record.call = .deregister ∨ record.call = .writeLegacy) ∧
      StoppedFirst [] restored ∧
      (restored = [] ∨ ∃ error, (session.removeDemand demand).1 = .error error)) ∧
    (∀ thread,
      StopsFirst [] session.capabilities.2.kernel (session.addThread thread).2.kernel ∨
        session.capabilities.1.interface = .legacy ∧
          ∃ error, (session.addThread thread).2.kernel.calls =
            session.capabilities.2.kernel.calls ++ [⟨.writeLegacy, thread, error⟩]) := by
  refine ⟨fun demand => ?_, fun demand => ?_, fun thread => ?_⟩
  · rcases insertDemand_cases session demand with ⟨error, refused⟩ | ⟨notice, points, _, begun⟩
    · rw [refused]
      exact .refl [] session.capabilities.2.kernel
    · rw [begun]
      exact insertPoints_stopsFirst points
  · rcases removeDemand_cases session demand with
      ⟨error, refused⟩ | ⟨points, _, _, begun⟩
    · rw [refused]
      exact ⟨[], [], by simp, by simp, stoppedFirst_nil [], .inl rfl⟩
    · rw [begun]
      exact removePoints_calls points
  · rw [kernel_addThread]
    by_cases legacy : session.capabilities.1.interface = .legacy
    · exact .inr ⟨legacy, equip_calls_of_legacy legacy thread (session.pattern? thread)⟩
    · exact .inl (equip_stopsFirst legacy thread (session.pattern? thread))

/-- A watch on an embedded processor is inserted and removed. The thread is
stopped for the registration and not for its removal. -/
theorem removal_touches_running_thread :
    let start : Session SimulatedKernel := .start .embedded ⟨100⟩ .standard none
    let watch := PointRequest.watch .write ⟨0x1000⟩ 4
    let watched := (start.insert watch).2
    watched.capabilities.1.interface = .handles ∧
      (start.insert watch).1 = .ok () ∧ (watched.remove watch).1 = .ok () ∧
      watched.kernel.calls =
        [⟨.debugInfo, ⟨100⟩, none⟩, stop ⟨100⟩, ⟨.register, ⟨100⟩, none⟩] ∧
      (watched.remove watch).2.kernel.calls =
        watched.capabilities.2.kernel.calls ++ [⟨.deregister, ⟨100⟩, none⟩] ∧
      ¬StopsFirst [] watched.capabilities.2.kernel (watched.remove watch).2.kernel := by
  intro start watch watched
  have calls : (watched.remove watch).2.kernel.calls =
      watched.capabilities.2.kernel.calls ++ [⟨.deregister, ⟨100⟩, none⟩] := by
    decide +kernel
  refine ⟨by decide +kernel, by decide +kernel, by decide +kernel, by decide +kernel, calls, ?_⟩
  rintro ⟨made, same, stopped⟩
  rw [calls] at same
  have only := List.append_cancel_left same
  subst only
  have touched := stopped [] _ [] rfl rfl
  cases touched

end Session

end DebugRegisters
