import DebugRegisters.Proofs.Session.Requests
import DebugRegisters.Proofs.Session.Restoring

/-!
# Removals that fail

A removal that fails takes back what it gave up, the latest first. As long as the
kernel plays along then, every thread holds afterwards what it held before. The
points that are back may be in other slots and have new registrations; apart from
that nothing has changed.
-/

set_option autoImplicit false

namespace DebugRegisters

def Notice.isRefusedRestore : Notice → Bool
  | .restoreFailed _ _ (.kernel ..) => true
  | _ => false

/-- How many points are reported not to be back because a kernel call failed. -/
def Session.refusedRestores {κ : Type} (session : Session κ) : Nat :=
  session.notices.countP Notice.isRefusedRestore

/-- The call concerned a slot that was to be given up, and failed. That there is
nothing to give up does not count. -/
structure CallRecord.FailsRelease (record : CallRecord) (cause : KernelError) : Prop where
  call : record.call = .deregister ∨ record.call = .writeLegacy
  error : record.error = some cause
  found : cause ≠ .notFound
  there : cause ≠ .noSuchThread

namespace SimulatedKernel

def Releases (kernel after : SimulatedKernel) : Prop :=
  ∃ made, after.calls = kernel.calls ++ made ∧
    ∀ record ∈ made, ∀ cause, ¬record.FailsRelease cause

section Releases

variable {kernel middle after entered : SimulatedKernel} {call : KernelCall} {thread : ThreadId}
  {error : Option KernelError}

theorem Releases.of_calls (same : after.calls = kernel.calls) : kernel.Releases after :=
  ⟨[], by rw [same, List.append_nil], nofun⟩

theorem Releases.trans (first : kernel.Releases middle) (second : middle.Releases after) :
    kernel.Releases after := by
  obtain ⟨early, before, fine⟩ := first
  obtain ⟨late, later, also⟩ := second
  refine ⟨early ++ late, by rw [later, before, List.append_assoc], fun record member => ?_⟩
  exact (List.mem_append.mp member).elim (fine record) (also record)

theorem Enters.releases (begun : kernel.Enters call thread error entered)
    (made : after.calls = entered.calls)
    (fine : ∀ cause, ¬(CallRecord.mk call thread error).FailsRelease cause) :
    kernel.Releases after := by
  refine ⟨[⟨call, thread, error⟩], made.trans begun.calls, fun record member => ?_⟩
  rw [List.mem_singleton.mp member]
  exact fine

theorem Enters.releases_of_ok (begun : kernel.Enters call thread none entered)
    (made : after.calls = entered.calls) : kernel.Releases after := by
  refine begun.releases made fun cause fails => ?_
  cases fails.error

end Releases

end SimulatedKernel

namespace KernelSide

variable {κ : Type} [Kernel κ]

/-- The kernel call that takes a slot succeeds, where there is one. -/
def canTake (caps : Capabilities) (thread : ThreadId) (kernel : κ) (point : EncodedPoint) : Bool :=
  match caps.interface with
  | .handles => (Kernel.register kernel thread point).1.isOk
  | .legacy =>
      (Kernel.writeLegacy kernel thread
        (Power.dataBreakpointValue point.address point.kind caps.architecture.isBookE)).1.isOk
  | .registerArray | .unavailable => true

variable {caps : Capabilities} {thread : ThreadId} {side after : KernelSide κ}
  {point : EncodedPoint}

theorem canTake_of_ok {handle : Option SlotHandle}
    (taken : takeSlot caps thread side point = (.ok handle, after)) :
    canTake caps thread side.kernel point = true := by
  have outcome := takesSlot caps thread side point
  rw [taken] at outcome
  unfold canTake
  cases outcome with
  | deferred later => rcases later with interface | interface <;> rw [interface]
  | registered interface answered | written interface answered =>
      simp only [interface, answered]
      rfl

theorem canTake_of_error {error : PointError}
    (refused : takeSlot caps thread side point = (.error error, after)) :
    canTake caps thread side.kernel point = false ∧
      ∃ call cause, error = .kernel call thread cause := by
  have outcome := takesSlot caps thread side point
  rw [refused] at outcome
  unfold canTake
  cases outcome with
  | unregistered interface answered | unwritten interface answered =>
      simp only [interface, answered]
      exact ⟨rfl, _, _, rfl⟩

theorem countP_giveUpSlot (caps : Capabilities) (thread : ThreadId) (side : KernelSide κ)
    (handle : Option SlotHandle) :
    (giveUpSlot caps thread side handle).2.2.countP Notice.isRefusedRestore = 0 := by
  have outcome := givesUpSlot caps thread side handle
  generalize giveUpSlot caps thread side handle = ended at outcome ⊢
  cases outcome <;> rfl

end KernelSide

namespace Session

open SimulatedKernel

section Calls

variable {caps : Capabilities} {session after : Session SimulatedKernel} {placement : Placement}

theorem GivesUp.releases (given : session.GivesUp caps placement after) :
    session.kernel.Releases after.kernel := by
  cases given with
  | left same | apart same => exact .of_calls (by rw [same])
  | dropped _ _ begun made | cleared _ begun made => exact begun.releases_of_ok (by rw [made]; rfl)
  | gone _ _ known refused =>
      have fine : ∀ cause known, known = .notFound ∨ known = .noSuchThread →
          ¬(CallRecord.mk .deregister placement.thread (some known)).FailsRelease cause := by
        rintro cause _ same ⟨_, error, found, there⟩
        cases error
        exact same.elim found there
      cases refused with
      | refused entered | unknown entered => exact entered.releases rfl fun cause => fine cause _ known

theorem Takes.releases (taken : session.Takes caps placement after) :
    session.kernel.Releases after.kernel := by
  cases taken with
  | joined paused | marked _ paused => exact paused.releases_of_ok rfl
  | registered _ paused begun made | written _ paused begun made =>
      exact (paused.releases_of_ok rfl).trans (begun.releases_of_ok (by rw [made]; rfl))

end Calls

section Provisos

variable {κ : Type} [Kernel κ] {caps : Capabilities} {session after : Session κ}
  {error : PointError}

def takeBack (caps : Capabilities) (session : Session κ) (placement : Placement) : Session κ :=
  match install caps session placement with
  | (.ok (), session) => session
  | (.error cause, session) =>
      session.notify (.restoreFailed placement.point placement.thread cause)

theorem restore_cons (session : Session κ) (placement : Placement) (rest : List Placement) :
    restore caps session (placement :: rest) = restore caps (session.takeBack caps placement) rest := by
  conv_lhs => unfold restore
  unfold takeBack
  cases install caps session placement with
  | mk result after => cases result <;> rfl

/-- Where there is room, an installation can only fail with a call. -/
theorem fails_of_install_error {placement : Placement}
    (refused : install caps session placement = (.error error, after))
    (room : (session.target caps placement).find? placement.point = none →
      (session.target caps placement).findFree?.isSome = true ∧
        placement.point.cost ≤ (session.target caps placement).available) :
    ∃ call cause, error = .kernel call placement.thread cause := by
  obtain ⟨_, _, ⟨cause, _, same⟩ | ⟨kernel, table, side, _, inserted, _⟩⟩ := install_error refused
  · exact ⟨_, _, same⟩
  · cases inserted with
    | full absent crowded =>
        obtain ⟨isFree, fits⟩ := room absent
        rcases crowded with none | few
        · rw [none] at isFree
          cases isFree
        · exact absurd fits (Nat.not_le_of_lt few)
    | refused _ registered => exact (KernelSide.canTake_of_error registered).2

/-- The thread can be stopped, and where the placement takes a free slot, the kernel
call for it succeeds. -/
def canTake (caps : Capabilities) (session : Session κ) (placement : Placement) : Bool :=
  let table := session.target caps placement
  match Kernel.pause session.kernel placement.thread with
  | (.error _, _) => false
  | (.ok (), kernel) =>
      (table.find? placement.point).isSome ||
        (table.findFree?.filter fun _ => placement.point.cost ≤ table.available).isNone ||
        KernelSide.canTake caps placement.thread kernel placement.point

def canTakeAll (caps : Capabilities) (session : Session κ) : List Placement → Bool
  | [] => true
  | placement :: rest =>
      session.canTake caps placement && canTakeAll caps (session.takeBack caps placement) rest

omit [Kernel κ] in
theorem refusedRestores_of_notices {reports : List Notice}
    (told : after.notices = session.notices ++ reports) :
    after.refusedRestores = session.refusedRestores + reports.countP Notice.isRefusedRestore := by
  unfold refusedRestores
  rw [told, List.countP_append]

/-- A point is reported not to be back because of a kernel call just where a call for
it fails. -/
theorem refusedRestores_takeBack (caps : Capabilities) (session : Session κ)
    (placement : Placement) :
    (session.takeBack caps placement).refusedRestores =
      session.refusedRestores + if session.canTake caps placement then 0 else 1 := by
  unfold takeBack canTake
  dsimp only
  cases outcome : install caps session placement with
  | mk result after =>
      cases result with
      | ok =>
          obtain ⟨kernel, _, _, _, paused, inserted, _, _, told, _⟩ := install_ok outcome
          rw [refusedRestores_of_notices told, paused]
          cases inserted with
          | shared found => simp [found, Notice.isRefusedRestore]
          | taken _ _ _ _ registered =>
              have can := KernelSide.canTake_of_ok registered
              simp [can, Notice.isRefusedRestore]
      | error error =>
          obtain ⟨_, same, reason⟩ := install_error outcome
          have told : (after.notify
              (.restoreFailed placement.point placement.thread error)).notices =
              session.notices ++ [.restoreFailed placement.point placement.thread error] := by
            simp only [notify, same]
          rw [refusedRestores_of_notices told]
          rcases reason with ⟨cause, paused, rfl⟩ | ⟨kernel, _, _, paused, inserted, _⟩
          · simp [paused, Notice.isRefusedRestore]
          · rw [paused]
            cases inserted with
            | full absent crowded =>
                have nowhere : (session.target caps placement).findFree?.filter
                    (fun _ => placement.point.cost ≤ (session.target caps placement).available) =
                    none := by
                  rcases crowded with none | few
                  · simp [none]
                  · simp [Nat.not_le_of_lt few]
                simp [nowhere, Notice.isRefusedRestore]
            | refused absent registered fits isFree =>
                obtain ⟨cannot, call, cause, rfl⟩ := KernelSide.canTake_of_error registered
                obtain ⟨index, free⟩ := Option.isSome_iff_exists.mp isFree
                simp [absent, free, fits, cannot, Notice.isRefusedRestore]

theorem refusedRestores_restore_le (caps : Capabilities) (session : Session κ)
    (done : List Placement) :
    session.refusedRestores ≤ (Session.restore caps session done).refusedRestores := by
  induction done generalizing session with
  | nil => exact Nat.le_refl _
  | cons placement rest ih =>
      have later := ih (session.takeBack caps placement)
      rw [refusedRestores_takeBack] at later
      rw [restore_cons]
      omega

/-- The reports tell of no point that is missing because of a kernel call just where
all calls succeed that install the points again. -/
theorem refusedRestores_restore_eq_iff (caps : Capabilities) (session : Session κ)
    (done : List Placement) :
    (Session.restore caps session done).refusedRestores = session.refusedRestores ↔
      canTakeAll caps session done = true := by
  induction done generalizing session with
  | nil => exact ⟨fun _ => rfl, fun _ => rfl⟩
  | cons placement rest ih =>
      have now := session.refusedRestores_takeBack caps placement
      have later := refusedRestores_restore_le caps (session.takeBack caps placement) rest
      rw [restore_cons, canTakeAll, Bool.and_eq_true, ← ih]
      cases can : session.canTake caps placement with
      | true =>
          rw [can] at now
          simp [now]
      | false =>
          rw [can] at now
          simp only [Bool.false_eq_true, false_and, iff_false, if_false] at now ⊢
          omega

/-- Where the placements cannot all be given up, the kernel calls succeed that install
again what was. -/
def canRestoreAll (caps : Capabilities) (done : List Placement) (session : Session κ) :
    List Placement → Bool
  | [] => true
  | placement :: rest =>
      match uninstall caps session placement with
      | (.ok true, session) => canRestoreAll caps (placement :: done) session rest
      | (.ok false, session) => canRestoreAll caps done session rest
      | (.error cause, session) =>
          canTakeAll caps
            (session.notify (.removeFailed placement.point placement.thread cause)) done

theorem countP_of_removes {thread : ThreadId} {table later : SlotTable} {point : EncodedPoint}
    {side left : KernelSide κ} {result : Except PointError Removal} {reports : List Notice}
    (removed : table.Removes point (side, []) (giveUp caps thread) (result, later, left, reports)) :
    reports.countP Notice.isRefusedRestore = 0 := by
  let quiet : KernelSide κ × List Notice → Prop := fun state =>
    state.2.countP Notice.isRefusedRestore = 0
  have kept : ∀ state handle, quiet state → quiet (giveUp caps thread state handle).2 :=
    fun state handle _ => KernelSide.countP_giveUpSlot caps thread state.1 handle
  have before : quiet (side, []) := rfl
  exact removed.keeps_side kept before

theorem refusedRestores_uninstall (caps : Capabilities) (session : Session κ)
    (placement : Placement) :
    (uninstall caps session placement).2.refusedRestores = session.refusedRestores := by
  have outcome := uninstalls caps session placement
  generalize uninstall caps session placement = ended at outcome ⊢
  cases outcome with
  | absent => rfl
  | refused _ _ _ removed told =>
      rw [refusedRestores_of_notices told, countP_of_removes removed, Nat.add_zero]
  | dropped _ _ removed _ told | marked _ _ removed _ told =>
      rw [List.append_assoc] at told
      rw [refusedRestores_of_notices told, List.countP_append, countP_of_removes removed]
      rfl

/-- The reports of a removal tell of no point that is missing because of a kernel call
just where all calls succeed that restore what was removed. -/
theorem refusedRestores_uninstallAll_eq_iff (caps : Capabilities) (session : Session κ)
    (done placements : List Placement) :
    (uninstallAll caps done session placements).2.refusedRestores = session.refusedRestores ↔
      canRestoreAll caps done session placements = true := by
  induction placements generalizing session done with
  | nil => exact ⟨fun _ => rfl, fun _ => rfl⟩
  | cons placement rest ih =>
      have given := refusedRestores_uninstall caps session placement
      unfold uninstallAll canRestoreAll
      cases outcome : uninstall caps session placement with
      | mk result after =>
          rw [outcome] at given
          cases result with
          | ok found =>
              rw [← given]
              cases found <;> exact ih after _
          | error cause =>
              let failed := after.notify (.removeFailed placement.point placement.thread cause)
              have told : failed.refusedRestores = session.refusedRestores := by
                rw [refusedRestores_of_notices rfl, ← given]
                rfl
              rw [← told]
              exact refusedRestores_restore_eq_iff caps failed done

theorem refusedRestores_removePoints_eq_iff (caps : Capabilities) (session : Session κ)
    (points : List EncodedPoint) :
    (removePoints caps session points).2.refusedRestores = session.refusedRestores ↔
      canRestoreAll caps [] session (session.placements points) = true := by
  rw [← refusedRestores_uninstallAll_eq_iff]
  unfold removePoints
  split
  · next outcome => rw [outcome]
  · next later outcome =>
      have quiet : (later.showRegisters "remove").refusedRestores = later.refusedRestores := by
        unfold showRegisters
        split
        · rw [refusedRestores_of_notices rfl]
          simp [List.countP_map, Function.comp_def, Notice.isRefusedRestore]
        · rfl
      rw [outcome, quiet]

end Provisos

section Chain

variable {κ : Type} [Kernel κ] {caps : Capabilities} {points : List EncodedPoint}
  {base session after : Session κ} {done placements : List Placement} {error : PointError}

inductive Removed (caps : Capabilities) (points : List EncodedPoint) (base : Session κ) :
    Session κ → List Placement → Prop where
  | none : Removed caps points base base []
  | more {session after : Session κ} {placement : Placement} {done : List Placement}
      (earlier : Removed caps points base session done) (asked : placement.point ∈ points)
      (given : uninstall caps session placement = (.ok true, after)) :
      Removed caps points base after (placement :: done)

inductive Removals (caps : Capabilities) (points : List EncodedPoint) (base : Session κ) :
    Outcome κ Unit → Prop where
  | complete {session : Session κ} {done : List Placement}
      (chain : Removed caps points base session done) : Removals caps points base (.ok (), session)
  | failed {session broken : Session κ} {done : List Placement} {placement : Placement}
      {error : PointError} (chain : Removed caps points base session done)
      (refused : uninstall caps session placement = (.error error, broken))
      (can : canTakeAll caps
        (broken.notify (.removeFailed placement.point placement.thread error)) done = true) :
      Removals caps points base (.error error,
        restore caps (broken.notify (.removeFailed placement.point placement.thread error)) done)

theorem Removed.removals (chain : Removed caps points base session done)
    (asked : ∀ placement ∈ placements, placement.point ∈ points)
    (can : canRestoreAll caps done session placements = true) :
    Removals caps points base (uninstallAll caps done session placements) := by
  induction placements generalizing session done with
  | nil => exact .complete chain
  | cons placement rest ih =>
      have others : ∀ placement ∈ rest, placement.point ∈ points :=
        fun placement member => asked placement (List.mem_cons_of_mem _ member)
      unfold canRestoreAll at can
      unfold uninstallAll
      split
      · next given =>
          rw [given] at can
          exact ih (chain.more (asked placement List.mem_cons_self) given) others can
      · next passed =>
          rw [passed] at can
          rw [(uninstall_false passed).1] at can ⊢
          exact ih chain others can
      · next refused =>
          rw [refused] at can
          exact .failed chain refused can

end Chain

section Restoring

variable {caps : Capabilities} {points : List EncodedPoint}
  {base session later now after : Session SimulatedKernel} {placement : Placement}
  {done : List Placement}

theorem Removed.reduces (chain : Removed caps points base session done)
    (orderly : base.TablesOrderly caps) :
    Reduces caps points base session ∧ base.kernel.Releases session.kernel := by
  induction chain with
  | none => exact ⟨.refl orderly points, .of_calls rfl⟩
  | more earlier asked given ih =>
      have gives := givesUp_of_uninstall given
      exact ⟨ih.1.givesUp (ih.1.orderly.uninstall given) asked gives, ih.2.trans gives.releases⟩

/-- A point that was given up has room where it is to be taken again. -/
theorem Regains.room (regained : Regains caps points base later now)
    (orderly : session.TablesOrderly caps)
    (given : uninstall caps session placement = (.ok true, later))
    (absent : (now.target caps placement).find? placement.point = none) :
    (now.target caps placement).findFree?.isSome = true ∧
      placement.point.cost ≤ (now.target caps placement).available := by
  have gained : (session.target caps placement).contents =
      placement.point ::ₘ (now.target caps placement).contents := by
    unfold target
    rw [contents_uninstall orderly given, share_self, regained.contents, Multiset.singleton_add]
  refine (regained.orderly _ _).room (orderly _ _) gained fun member => ?_
  have found := (SlotTable.find?_isSome_iff (regained.orderly _ _).kept).mpr member
  rw [absent] at found
  cases found

theorem Regains.takeBack (numbered : base.kernel.IsNumbered)
    (immediate : caps.interface = .handles ∨ caps.interface = .legacy)
    (asked : placement.point ∈ points) (orderly : session.TablesOrderly caps)
    (given : uninstall caps session placement = (.ok true, later))
    (regained : Regains caps points base later now)
    (can : now.canTake caps placement = true) :
    Regains caps points base session (now.takeBack caps placement) ∧
      now.kernel.Releases (now.takeBack caps placement).kernel := by
  have quiet := now.refusedRestores_takeBack caps placement
  rw [if_pos can] at quiet
  unfold Session.takeBack at quiet ⊢
  cases outcome : install caps now placement with
  | mk result after =>
      cases result with
      | ok =>
          exact ⟨regained.takes numbered immediate asked orderly given outcome,
            (takes_of_install outcome).releases⟩
      | error cause =>
          obtain ⟨_, same, _⟩ := install_error outcome
          obtain ⟨call, error, rfl⟩ := fails_of_install_error outcome (regained.room orderly given)
          rw [outcome] at quiet
          have told : (after.notify (.restoreFailed placement.point placement.thread
              (.kernel call placement.thread error))).notices = now.notices ++
              [.restoreFailed placement.point placement.thread
                (.kernel call placement.thread error)] := by
            simp only [notify, same]
          dsimp only at quiet
          rw [refusedRestores_of_notices told] at quiet
          exact absurd quiet (by simp [Notice.isRefusedRestore])

/-- A removal is taken back to its beginning. -/
theorem Removed.regains (chain : Removed caps points base session done)
    (orderly : base.TablesOrderly caps) (numbered : base.kernel.IsNumbered)
    (immediate : caps.interface = .handles ∨ caps.interface = .legacy)
    (regained : Regains caps points base session now) (can : canTakeAll caps now done = true) :
    Regains caps points base base (Session.restore caps now done) ∧
      now.kernel.Releases (Session.restore caps now done).kernel := by
  induction chain generalizing now with
  | none => exact ⟨regained, .of_calls rfl⟩
  | more earlier asked given ih =>
      rw [canTakeAll, Bool.and_eq_true] at can
      rw [restore_cons]
      obtain ⟨back, released⟩ := regained.takeBack numbered immediate asked
        (earlier.reduces orderly).1.orderly given can.1
      obtain ⟨all, also⟩ := ih back can.2
      exact ⟨all, released.trans also⟩

end Restoring

section Requests

/-- After a removal that failed, every thread holds what it held before. A slot
is as it was, or was free or given up, and is free now or was taken anew; a
registration is gone only with its slot, and one that is new belongs to a slot
that was taken. A data breakpoint register that was set on the way has the value
of a point that its thread holds. -/
structure Restored (caps : Capabilities) (points : List EncodedPoint)
    (before after : Session SimulatedKernel) : Prop where
  contents : ∀ thread bank, (after.tableOf caps thread bank).contents =
    (before.tableOf caps thread bank).contents
  capacity : ∀ thread bank, (after.tableOf caps thread bank).capacity =
    (before.tableOf caps thread bank).capacity
  slots : ∀ thread bank index slot, (after.tableOf caps thread bank).get? index = some slot →
    ∃ former, (before.tableOf caps thread bank).get? index = some former ∧
      (slot = former ∨
        (∀ point, former.point = some point → Freed points before after thread index point) ∧
          (slot = .free ∨ Renewed caps points before after thread index slot))
  dropped : ∀ thread, ∀ entry ∈ (before.kernel.threads thread).registrations,
    entry ∈ (after.kernel.threads thread).registrations ∨
      Surrenders caps points before after thread entry.1
  added : ∀ thread, ∀ entry ∈ (after.kernel.threads thread).registrations,
    entry ∈ (before.kernel.threads thread).registrations ∨
      ∃ bank index slot, (after.tableOf caps thread bank).get? index = some slot ∧
        slot.handle = some ⟨entry.1⟩ ∧ slot.point = some entry.2.point ∧
        Renewed caps points before after thread index slot
  legacy : ∀ thread,
    if after.kernel.timesSet thread = before.kernel.timesSet thread then
      (after.kernel.threads thread).legacy = (before.kernel.threads thread).legacy
    else ∃ point ∈ points, point ∈ (before.tableOf caps thread point.kind.bank).contents ∧
      (after.kernel.threads thread).legacy =
        Power.dataBreakpointValue point.address point.kind caps.architecture.isBookE

variable {caps : Capabilities} {points : List EncodedPoint}
  {base after : Session SimulatedKernel}

theorem Regains.restored (regained : Regains caps points base base after)
    (orderly : base.TablesOrderly caps) (continued : base.kernel.Continues after.kernel) :
    Restored caps points base after where
  contents := regained.contents
  capacity thread bank := (regained.orderly thread bank).sized.trans (orderly thread bank).sized.symm
  slots thread bank index slot there := by
    obtain ⟨former, found, ⟨point, handle⟩ | changed⟩ := regained.slots thread bank index slot there
    · exact ⟨former, found, .inl ((regained.orderly thread bank).eq_of_contents (orderly thread bank)
        (regained.contents thread bank) there found point handle)⟩
    · exact ⟨former, found, .inr changed⟩
  dropped := regained.dropped
  added := regained.added
  legacy thread := by
    split
    · next same => exact continued.legacy thread same
    · next set =>
        have more := continued.timesSet_le thread
        obtain ⟨point, ours, member, value⟩ := regained.rewritten thread (by omega)
        exact ⟨point, ours, regained.contents thread _ ▸ member, value⟩

/-- A report that comes first is nothing to the points. -/
theorem Restored.of_notify {notice : Notice}
    (restored : Restored caps points (base.notify notice) after) :
    Restored caps points base after := by
  have fewer : (base.notify notice).reportsSince after ⊆ base.reportsSince after := by
    unfold reportsSince notify
    rw [List.length_append]
    exact (List.drop_sublist_drop_left _ (Nat.le_add_right _ _)).subset
  have freed : ∀ thread index point, Freed points (base.notify notice) after thread index point →
      Freed points base after thread index point := fun _ _ _ freed => ⟨freed.1, fewer freed.2⟩
  have renewed : ∀ thread index slot,
      Renewed caps points (base.notify notice) after thread index slot →
        Renewed caps points base after thread index slot := by
    rintro thread index slot ⟨point, ours, holds, taken, live⟩
    exact ⟨point, ours, holds, fewer taken, live⟩
  refine ⟨restored.contents, restored.capacity, fun thread bank index slot there => ?_,
    fun thread entry member => (restored.dropped thread entry member).imp_right ?_,
    fun thread entry live => (restored.added thread entry live).imp_right ?_, restored.legacy⟩
  · obtain ⟨former, found, same | ⟨gave, fine⟩⟩ := restored.slots thread bank index slot there
    · exact ⟨former, found, .inl same⟩
    · exact ⟨former, found, .inr ⟨fun point holds => freed _ _ _ (gave point holds),
        fine.imp_right (renewed _ _ _)⟩⟩
  · rintro ⟨bank, index, former, slot, found, kept, ⟨point, holds, gave⟩, there, different⟩
    exact ⟨bank, index, former, slot, found, kept, ⟨point, holds, freed _ _ _ gave⟩, there, different⟩
  · rintro ⟨bank, index, slot, there, kept, holds, new⟩
    exact ⟨bank, index, slot, there, kept, holds, renewed _ _ _ new⟩

/-- A removal fails with the one call that failed to give a slot up, and is taken
back. -/
theorem removePoints_restored {result : Except PointError Unit}
    (orderly : base.TablesOrderly caps) (numbered : base.kernel.IsNumbered)
    (immediate : caps.interface = .handles ∨ caps.interface = .legacy)
    (ended : removePoints caps base points = (result, after))
    (continued : base.kernel.Continues after.kernel)
    {made : List CallRecord} (calls : after.kernel.calls = base.kernel.calls ++ made)
    {record : CallRecord} (member : record ∈ made) {cause : KernelError}
    (fails : record.FailsRelease cause)
    (can : canRestoreAll caps [] base (base.placements points) = true) :
    result = .error (.kernel record.call record.thread cause) ∧ Restored caps points base after := by
  have asked : ∀ placement ∈ base.placements points, placement.point ∈ points := by
    intro placement member
    obtain ⟨thread, _, listed⟩ := List.mem_flatMap.mp member
    obtain ⟨point, ours, rfl⟩ := List.mem_map.mp listed
    exact ours
  have start : Removed caps points base base [] := .none
  have removals := start.removals asked can
  unfold removePoints at ended
  generalize uninstallAll caps [] base (base.placements points) = outcome at removals ended
  cases removals with
  | @complete session done chain =>
      obtain ⟨_, own, same, fine⟩ := chain.reduces orderly
      have shown : after.kernel = session.kernel := by
        cases ended
        unfold showRegisters
        split <;> rfl
      rw [shown, same] at calls
      rw [← List.append_cancel_left calls] at member
      exact absurd fails (fine record member cause)
  | @failed session broken done placement error chain refused can =>
      cases ended
      obtain ⟨reduced, own, same, fine⟩ := chain.reduces orderly
      obtain ⟨call, error, entered, rfl⟩ := fails_of_uninstall_error refused
      obtain ⟨tables, _, _, reports, _, _, _, _, told⟩ := uninstall_error refused
      let failed := broken.notify (.removeFailed placement.point placement.thread
        (.kernel call placement.thread error))
      have more : failed.notices = session.notices ++ (reports ++
          [.removeFailed placement.point placement.thread (.kernel call placement.thread error)]) := by
        simp only [failed, notify, told, List.append_assoc]
      have start : Regains caps points base session failed :=
        .start reduced tables (entered.idles (.inr (Option.some_ne_none error)))
          (more ▸ List.prefix_append _ _)
      obtain ⟨regained, others, later, also⟩ :=
        chain.regains orderly numbered immediate start can
      refine ⟨?_, regained.restored orderly continued⟩
      have between : failed.kernel.calls =
          session.kernel.calls ++ [⟨call, placement.thread, some error⟩] :=
        entered.calls
      rw [later, between, same, List.append_assoc, List.append_assoc] at calls
      rw [← List.append_cancel_left calls, List.mem_append, List.mem_append] at member
      rcases member with early | here | late
      · exact absurd fails (fine record early cause)
      · cases List.mem_singleton.mp here
        cases fails.error
        rfl
      · exact absurd fails (also record late cause)

/-- As long as nothing is known of the kernel, nothing is installed. -/
theorem InOrder.known_of_isInstalled {κ : Type} [Kernel κ] {session : Session κ}
    (ordered : session.InOrder) {points : List EncodedPoint}
    (installed : session.capabilities.2.isInstalled points = true) :
    ∃ caps, session.capabilities? = some caps := by
  cases known : session.capabilities? with
  | some caps => exact ⟨caps, rfl⟩
  | none =>
      have bare : session.capabilities.2.sets.toList = [] := ordered.bare known
      unfold isInstalled at installed
      cases points with
      | nil => cases installed
      | cons first rest =>
          rw [bare] at installed
          cases installed

/-- A removal in which a call fails to give a slot up answers that failure. As
long as no call fails while the points are installed again, every thread holds
afterwards what it held before, the points that were taken again are registered
under new handles, or are in the data breakpoint register again, and nothing else
has changed. -/
theorem failed_removal_restores_points {kernel : SimulatedKernel} {leader : ThreadId}
    {settings : Settings} {capabilities? : Option Capabilities}
    (bare : ∀ thread, (kernel.threads thread).registrations = []) {history : History}
    (reached : History.Leads (fun _ _ => True)
      (.ofSession (.start kernel leader settings capabilities?)) history)
    (immediate : history.session.capabilities.1.interface = .handles ∨
      history.session.capabilities.1.interface = .legacy)
    {demand : Demand} {result : Except PointError Unit} {after : Session SimulatedKernel}
    (removed : history.session.removeDemand demand = (result, after)) {made : List CallRecord}
    (calls : after.kernel.calls = history.session.capabilities.2.kernel.calls ++ made)
    {record : CallRecord} (member : record ∈ made) {cause : KernelError}
    (fails : record.FailsRelease cause)
    (restored : after.refusedRestores = history.session.refusedRestores) :
    result = .error (.kernel record.call record.thread cause) ∧
    ∃ points, Serves history.session.capabilities.1 history.session.restriction.table? demand points ∧
      Restored history.session.capabilities.1 points history.session after := by
  have numbered := isNumbered_of_leads bare reached
  have ordered : history.session.InOrder :=
    reached.kept keptByEvents_inOrder (inOrder_start kernel leader settings capabilities?)
  have continued := acrossChanges_continues.removeDemand history.session demand
  rw [removed] at continued
  rcases removeDemand_cases history.session demand with
    ⟨error, refused⟩ | ⟨points, serves, installed, begun⟩
  · rw [refused] at removed
    cases removed
    rw [List.self_eq_append_right.mp calls] at member
    cases member
  · obtain ⟨caps, known⟩ := ordered.known_of_isInstalled installed
    rw [capabilities_of_known known] at immediate calls begun serves ⊢
    rw [begun] at removed
    have late : caps.interface ≠ .registerArray := by
      rcases immediate with same | same <;> rw [same] <;> decide
    have orderly : (history.session.notify demand.removalNotice).TablesOrderly caps :=
      (ordered.steady caps known late).orderly
    have can : canRestoreAll caps [] (history.session.notify demand.removalNotice)
        ((history.session.notify demand.removalNotice).placements points) = true := by
      have told : (history.session.notify demand.removalNotice).refusedRestores =
          history.session.refusedRestores := by
        rw [refusedRestores_of_notices rfl]
        cases demand <;> rfl
      rw [← refusedRestores_removePoints_eq_iff, removed, told, restored]
    obtain ⟨answer, back⟩ := removePoints_restored orderly numbered immediate removed continued calls
      member fails can
    exact ⟨answer, points, serves, back.of_notify⟩

/-- The second thread does not let a breakpoint go, which the first has given up by
then. -/
theorem failed_removal_restores_points_refusal :
    let history := (History.ofSession (.start .embedded ⟨1⟩ .standard none)).afterAll
      [.newThread ⟨2⟩, .insert (.plain ⟨.execute, ⟨0x1000⟩, 0, 4, none⟩),
        .insert (.plain ⟨.execute, ⟨0x2000⟩, 0, 4, none⟩), .fail ⟨.deregister, some ⟨2⟩, .os 5⟩]
    let demand : Demand := .plain ⟨.execute, ⟨0x1000⟩, 0, 4, none⟩
    let outcome := history.session.removeDemand demand
    outcome.2.kernel.calls = history.session.capabilities.2.kernel.calls ++
      [⟨.deregister, ⟨1⟩, none⟩, ⟨.deregister, ⟨2⟩, some (.os 5)⟩, ⟨.pause, ⟨1⟩, none⟩,
        ⟨.register, ⟨1⟩, none⟩] ∧
    outcome.2.refusedRestores = history.session.refusedRestores ∧
    outcome.1 = .error (.kernel .deregister ⟨2⟩ (.os 5)) ∧
    ∃ points, Serves history.session.capabilities.1 history.session.restriction.table? demand points ∧
      Restored history.session.capabilities.1 points history.session outcome.2 := by
  intro history demand outcome
  have calls : outcome.2.kernel.calls = history.session.capabilities.2.kernel.calls ++
      [⟨.deregister, ⟨1⟩, none⟩, ⟨.deregister, ⟨2⟩, some (.os 5)⟩, ⟨.pause, ⟨1⟩, none⟩,
        ⟨.register, ⟨1⟩, none⟩] := by decide
  have restored : outcome.2.refusedRestores = history.session.refusedRestores := by decide
  refine ⟨calls, restored, ?_⟩
  have reached : History.Leads (fun _ _ => True)
      (.ofSession (.start .embedded ⟨1⟩ .standard none)) history :=
    History.leads_afterAll .start (by decide)
  have removed : history.session.removeDemand demand = (outcome.1, outcome.2) := rfl
  have fails : (CallRecord.mk .deregister ⟨2⟩ (some (.os 5))).FailsRelease (.os 5) :=
    ⟨.inl rfl, rfl, nofun, nofun⟩
  exact failed_removal_restores_points (fun _ => rfl) reached (.inl (by decide)) removed calls
    (List.mem_cons_of_mem _ List.mem_cons_self) fails restored

end Requests

end Session

end DebugRegisters
