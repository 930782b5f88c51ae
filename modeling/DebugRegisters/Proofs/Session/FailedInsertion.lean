import DebugRegisters.Proofs.Kernel.Scripted
import DebugRegisters.Proofs.Session.Reaching
import DebugRegisters.Proofs.Session.Requests
import DebugRegisters.Proofs.Session.Slots
import DebugRegisters.Proofs.Session.Undoing

/-!
# Insertions that fail

An insertion that fails leaves no trace, on any kernel whose calls may fail, as long
as the calls succeed that undo it: every table is slot for slot as before, every
thread has the registrations it had, no bank was touched, and a data breakpoint
register that was set on the way is zero again. It does not matter where the
insertion failed, nor which of the points that were done had been registered and
which had only joined a slot.
-/

set_option autoImplicit false

namespace DebugRegisters

namespace KernelSide

variable {κ : Type} [Kernel κ]

/-- The kernel call that gives a slot up succeeds, where there is one. -/
def canGiveUp (caps : Capabilities) (thread : ThreadId) (kernel : κ) (handle : Option SlotHandle) :
    Bool :=
  match caps.interface, handle with
  | .handles, some handle => (Kernel.deregister kernel thread handle).1.isOk
  | .legacy, _ => (Kernel.writeLegacy kernel thread 0).1.isOk
  | _, _ => true

variable {contract : RegisterContract κ} {caps : Capabilities} {thread : ThreadId}
  {point : EncodedPoint} {side taken now left : KernelSide κ} {handle : Option SlotHandle}
  {reports : List Notice} {error : PointError}

theorem giveUpSlot_of_canGiveUp (can : canGiveUp caps thread side.kernel handle = true) :
    (giveUpSlot caps thread side handle).1 = .ok () := by
  have outcome := givesUpSlot caps thread side handle
  generalize giveUpSlot caps thread side handle = ended at outcome ⊢
  cases outcome with
  | apart | dropped | gone | cleared => rfl
  | undropped handles kept other answered =>
      simp only [canGiveUp, handles, kept, answered] at can
      cases can
  | uncleared legacy answered =>
      simp only [canGiveUp, legacy, answered] at can
      cases can

theorem view_of_takeSlot_error (refused : takeSlot caps thread side point = (.error error, taken)) :
    contract.view taken.kernel = contract.view side.kernel := by
  have outcome := takesSlot caps thread side point
  rw [refused] at outcome
  cases outcome with
  | unregistered _ answered => exact contract.refuses answered
  | unwritten _ answered => exact contract.leaves answered

/-- Giving a slot up after it was taken, and after what came later was undone. -/
theorem returnsTo_of_giveUpSlot (valid : contract.valid side.kernel)
    (took : takeSlot caps thread side point = (.ok handle, taken))
    (returned : (contract.view taken.kernel).ReturnsTo (contract.view now.kernel))
    (gave : giveUpSlot caps thread now handle = (.ok (), left, reports))
    (can : canGiveUp caps thread now.kernel handle = true) :
    (contract.view side.kernel).ReturnsTo (contract.view left.kernel) := by
  have taking := takesSlot caps thread side point
  have giving := givesUpSlot caps thread now handle
  rw [took] at taking
  rw [gave] at giving
  cases giving with
  | apart other bare =>
      cases taking with
      | deferred => exact returned
      | registered handles => cases bare handles
      | written legacy => exact absurd legacy other
  | dropped handles kept dropped =>
      cases taking with
      | deferred | written => cases kept
      | registered _ registered =>
          cases kept
          obtain ⟨free, made⟩ := contract.registers valid registered
          rw [made] at returned
          rw [contract.drops dropped]
          exact returned.withdrawn free
  | gone handles kept known refused =>
      simp only [canGiveUp, handles, kept, refused] at can
      cases can
  | cleared legacy cleared =>
      cases taking with
      | deferred later =>
          rw [legacy] at later
          rcases later with same | same <;> cases same
      | registered handles =>
          rw [legacy] at handles
          cases handles
      | written _ written =>
          rw [contract.sets written] at returned
          rw [contract.sets cleared]
          exact returned.cleared

end KernelSide

def Demand.insertionNotice (demand : Demand) (points : Nat) : Notice :=
  match demand with
  | .plain request => .inserting request points
  | .masked kind address mask => .insertingMasked kind address mask

namespace Session

variable {κ : Type} [Kernel κ]

def insertionPoints (session : Session κ) (caps : Capabilities) :
    Demand → Except PointError (List EncodedPoint)
  | .plain request => session.encodeRequest request caps (session.insertComparator? request caps)
  | .masked kind address mask => (encodeMasked kind address mask caps).map fun point => [point]

theorem insertDemand_eq (session : Session κ) (demand : Demand) :
    session.insertDemand demand =
      match session.capabilities.2.insertionPoints session.capabilities.1 demand with
      | .error error => (.error error, session.capabilities.2)
      | .ok points =>
          insertPoints session.capabilities.1
            (session.capabilities.2.notify (demand.insertionNotice points.length)) points := by
  cases demand with
  | plain request => rfl
  | masked kind address mask =>
      unfold insertDemand insertMasked insertionPoints
      dsimp only
      cases encodeMasked kind address mask session.capabilities.1 <;> rfl

section Proviso

/-- Giving a placement up needs no kernel call, or one that succeeds. -/
def canGiveUp (caps : Capabilities) (session : Session κ) (placement : Placement) : Bool :=
  ((session.target caps placement).lastSlot? placement.point).all fun slot =>
    KernelSide.canGiveUp caps placement.thread session.kernel slot.handle

def canGiveUpAll (caps : Capabilities) (session : Session κ) : List Placement → Bool
  | [] => true
  | placement :: rest =>
      session.canGiveUp caps placement && canGiveUpAll caps (session.giveBack caps placement) rest

def canUndoAll (caps : Capabilities) (done : List Placement) (session : Session κ) :
    List Placement → Bool
  | [] => true
  | placement :: rest =>
      match install caps session placement with
      | (.ok (), session) => canUndoAll caps (placement :: done) session rest
      | (.error cause, session) =>
          canGiveUpAll caps
            (session.notify (.insertFailed placement.point placement.thread cause)) done

def canUndoPoints (caps : Capabilities) (session : Session κ) (points : List EncodedPoint) : Bool :=
  match points with
  | [] => true
  | first :: _ =>
      match checkRoom caps first.kind.bank points session.threads session.sets with
      | (.error _, _) => true
      | (.ok (), sets) => canUndoAll caps [] { session with sets } (session.placements points)

/-- Where the insertion of a demand fails, the kernel calls succeed that undo it. -/
def canUndoInsertion (session : Session κ) (demand : Demand) : Bool :=
  match session.capabilities.2.insertionPoints session.capabilities.1 demand with
  | .error _ => true
  | .ok points =>
      canUndoPoints session.capabilities.1
        (session.capabilities.2.notify (demand.insertionNotice points.length)) points

end Proviso

structure ReturnsTo (contract : RegisterContract κ) (caps : Capabilities)
    (session now : Session κ) : Prop where
  tables : now.tableOf caps = session.tableOf caps
  registers : (contract.view session.kernel).ReturnsTo (contract.view now.kernel)

structure Revocable (contract : RegisterContract κ) (caps : Capabilities) (session : Session κ) :
    Prop where
  kept : session.TablesKept caps
  valid : contract.valid session.kernel

section Undoing

variable {contract : RegisterContract κ} {caps : Capabilities} {base session after now : Session κ}
  {placement : Placement} {done placements : List Placement} {error : PointError}

theorem uninstall_of_canGiveUp (can : session.canGiveUp caps placement = true) :
    ∃ found after, uninstall caps session placement = (.ok found, after) := by
  cases outcome : uninstall caps session placement with
  | mk result after =>
      cases result with
      | ok found => exact ⟨found, after, rfl⟩
      | error cause =>
          obtain ⟨_, slot, _, _, last, gave, _⟩ := uninstall_error outcome
          rw [canGiveUp, last] at can
          have done := @KernelSide.giveUpSlot_of_canGiveUp _ _ _ _
            ⟨session.kernel, session.legacyValue⟩ _ can
          rw [gave] at done
          cases done

theorem Revocable.install (revocable : session.Revocable contract caps)
    (installed : install caps session placement = (.ok (), after)) :
    after.Revocable contract caps := by
  have valid := contract.stays.install caps session placement revocable.valid
  rw [installed] at valid
  exact ⟨revocable.kept.install installed, valid⟩

theorem ReturnsTo.of_install_error
    (refused : Session.install caps session placement = (.error error, after)) :
    ReturnsTo contract caps session after := by
  obtain ⟨tables, _, ⟨cause, paused, _⟩ | ⟨kernel, table, side, paused, inserted, same⟩⟩ :=
    install_error refused
  all_goals
    have idle := contract.pauses session.kernel placement.thread
    rw [paused] at idle
    refine ⟨tables, ?_⟩
  · rw [idle]
    exact .refl _
  · have kept : contract.view side.kernel = contract.view kernel := by
      cases inserted with
      | full => rfl
      | refused _ registered => exact KernelSide.view_of_takeSlot_error registered
    rw [same, kept, idle]
    exact .refl _

/-- Giving a placement up, one step back along the chain. -/
theorem ReturnsTo.giveBack (revocable : session.Revocable contract caps)
    (installed : Session.install caps session placement = (.ok (), after))
    (returned : ReturnsTo contract caps after now)
    (can : now.canGiveUp caps placement = true) :
    ReturnsTo contract caps session (now.giveBack caps placement) := by
  obtain ⟨found, final, given⟩ := uninstall_of_canGiveUp can
  obtain ⟨tables, kernel, reports, side, left, paused, kernelSide, kernelNow, sides⟩ :=
    uninstall_installed revocable.kept installed returned.tables given
  have idle := contract.pauses session.kernel placement.thread
  have valid := contract.stays.pause session.kernel placement.thread revocable.valid
  rw [paused] at idle valid
  have reached := returned.registers
  rw [kernelSide] at reached
  unfold Session.giveBack
  rw [given]
  refine ⟨tables, ?_⟩
  rw [kernelNow, ← idle]
  rcases sides with ⟨early, late⟩ | ⟨handle, took, last, gave⟩
  · rwa [late, ← early]
  · rw [canGiveUp, last] at can
    have before : contract.valid (KernelSide.mk kernel session.legacyValue).kernel := valid
    have later : (contract.view side.kernel).ReturnsTo
        (contract.view (KernelSide.mk now.kernel now.legacyValue).kernel) := reached
    exact KernelSide.returnsTo_of_giveUpSlot before took later gave can

theorem Installed.returnsTo (chain : Installed caps base session done)
    (revocable : base.Revocable contract caps) (returned : ReturnsTo contract caps session now)
    (can : canGiveUpAll caps now done = true) :
    ReturnsTo contract caps base (Session.rollback caps now done) := by
  induction chain generalizing now with
  | none => exact returned
  | more earlier installed ih =>
      rw [canGiveUpAll, Bool.and_eq_true] at can
      rw [rollback_cons]
      have before := earlier.keeps Revocable.install revocable
      exact ih (returned.giveBack before installed can.1) can.2

theorem returnsTo_of_installAll (revocable : base.Revocable contract caps)
    (chain : Installed caps base session done)
    (failed : installAll caps done session placements = (.error error, after))
    (can : canUndoAll caps done session placements = true) :
    ReturnsTo contract caps base after := by
  induction placements generalizing session done with
  | nil => cases failed
  | cons placement rest ih =>
      unfold installAll at failed
      unfold canUndoAll at can
      split at failed
      · next middle installed =>
          rw [installed] at can
          exact ih (chain.more installed) failed can
      · next cause broken refused =>
          rw [refused] at can
          cases failed
          have start : ReturnsTo contract caps session broken := .of_install_error refused
          exact chain.returnsTo revocable
            ⟨(tableOf_congr rfl caps).trans start.tables, start.registers⟩ can

theorem returnsTo_of_insertPoints (revocable : session.Revocable contract caps)
    {points : List EncodedPoint} (failed : insertPoints caps session points = (.error error, after))
    (can : canUndoPoints caps session points = true) : ReturnsTo contract caps session after := by
  unfold insertPoints at failed
  split at failed
  · cases failed
  · next first rest =>
      have checked := tableOf_checkRoom session caps first.kind.bank (first :: rest) session.threads
      unfold canUndoPoints at can
      dsimp only at can
      split at failed
      · next refused =>
          rw [refused] at checked
          cases failed
          exact ⟨checked, .refl _⟩
      · next sets room =>
          rw [room] at checked can
          split at failed
          · next final broken =>
              cases failed
              have begun : Revocable contract caps { session with sets } :=
                ⟨revocable.kept.congr checked, revocable.valid⟩
              have back := returnsTo_of_installAll begun .none broken can
              exact ⟨back.tables.trans checked, back.registers⟩
          · cases failed

end Undoing

section Requests

variable {contract : RegisterContract κ} {session after : Session κ} {error : PointError}

theorem view_query? (contract : RegisterContract κ) (kernel : κ) (thread : ThreadId) :
    contract.view (Capabilities.query? kernel thread).2.1 = contract.view kernel := by
  have asked := contract.asks kernel thread
  unfold Capabilities.query?
  dsimp only
  split <;> next answered => rwa [answered] at asked

/-- Looking for capabilities changes no register, but that a data breakpoint
register may be tried with zero. -/
theorem returnsTo_capabilities (contract : RegisterContract κ) (session : Session κ) :
    (contract.view session.kernel).ReturnsTo (contract.view session.capabilities.2.kernel) := by
  have queried := view_query? contract session.kernel session.leader
  have same := RegisterView.ReturnsTo.refl (contract.view session.kernel)
  unfold Session.capabilities Capabilities.cachedOrProbe
  cases session.capabilities? with
  | some caps => exact same
  | none =>
      dsimp only
      unfold Capabilities.probe
      split
      · next answered =>
          rw [answered] at queried
          exact queried ▸ same
      · next middle notices answered =>
          rw [answered] at queried
          dsimp only
          unfold Capabilities.fallback
          dsimp only
          split
          · split
            · next tried =>
                rw [contract.sets tried, queried]
                refine ⟨rfl, rfl, rfl, fun thread => ?_⟩
                by_cases here : thread = session.leader
                · subst here
                  exact .inr (by simp [RegisterView.setLegacy])
                · exact .inl (by simp [RegisterView.setLegacy, here])
            · next tried =>
                rw [contract.leaves tried, queried]
                exact same
          · exact queried ▸ same

theorem returnsTo_of_insertDemand (sound : session.Sound) (valid : contract.valid session.kernel)
    {demand : Demand} (failed : session.insertDemand demand = (.error error, after))
    (can : session.canUndoInsertion demand = true) :
    ReturnsTo contract session.capabilities.1 session after := by
  have looked := returnsTo_capabilities contract session
  rw [insertDemand_eq] at failed
  unfold canUndoInsertion at can
  split at failed
  · cases failed
    exact ⟨tableOf_congr rfl _, looked⟩
  · next points encoded =>
      rw [encoded] at can
      have probed := contract.stays.capabilities session valid
      let told := session.capabilities.2.notify (demand.insertionNotice points.length)
      have same : told.tableOf session.capabilities.1 = session.tableOf session.capabilities.1 :=
        tableOf_congr rfl _
      have begun : told.Revocable contract session.capabilities.1 :=
        ⟨(sound.tablesKept _).congr same, probed⟩
      have back := returnsTo_of_insertPoints begun failed can
      exact ⟨back.tables.trans same, looked.trans back.registers⟩

/-- On any kernel that keeps the register contract, and wherever operations have led,
an insertion that fails leaves no trace, if the kernel calls succeed that undo it:
every table is slot for slot as before, the registrations of every thread are the
same under the same handles, no bank was written, and a data breakpoint register that
was set is zero. -/
theorem failed_insertion_leaves_no_trace (contract : RegisterContract κ) {kernel : κ}
    {leader : ThreadId} {settings : Settings} {capabilities? : Option Capabilities}
    (reached : Reaches (.start kernel leader settings capabilities?) session)
    (valid : contract.valid session.kernel) {demand : Demand}
    (failed : session.insertDemand demand = (.error error, after))
    (undone : session.canUndoInsertion demand = true) :
    (∀ thread bank, after.tableOf session.capabilities.1 thread bank =
      session.tableOf session.capabilities.1 thread bank) ∧
    (contract.view after.kernel).live = (contract.view session.kernel).live ∧
    (contract.view after.kernel).writes = (contract.view session.kernel).writes ∧
    (contract.view after.kernel).banks = (contract.view session.kernel).banks ∧
    ∀ thread, (contract.view after.kernel).legacy thread =
      if (contract.view after.kernel).timesSet thread =
          (contract.view session.kernel).timesSet thread then
        (contract.view session.kernel).legacy thread
      else 0 := by
  have returned := returnsTo_of_insertDemand reached.sound valid failed undone
  refine ⟨fun thread bank => congrFun (congrFun returned.tables thread) bank,
    returned.registers.live, returned.registers.writes, returned.registers.banks, fun thread => ?_⟩
  rcases returned.registers.legacy thread with ⟨same, kept⟩ | ⟨later, zero⟩
  · rw [if_pos same, kept]
  · rw [if_neg (Nat.ne_of_gt later), zero]

/-- Both threads watch four bytes when eight are to be watched, so that the first half
joins a slot and the second half takes one. The second thread is stopped for the first
half and cannot be stopped again for the second. -/
theorem failed_insertion_leaves_no_trace_second_pause :
    let kernel : ScriptedKernel SimulatedKernel :=
      ⟨.withHandles true
        { version := 1, instructionPoints := 0, dataPoints := 3, comparators := 1,
          dataAlignment := 4, comparatorWidth := 4, features := 0x8 }, []⟩
    let started : Session (ScriptedKernel SimulatedKernel) := .start kernel ⟨1⟩ .standard none
    let watched := (started.addThread ⟨2⟩).2.insertDemand
      (.plain ⟨.write, ⟨0x1000⟩, 4, 0, none⟩)
    let session : Session (ScriptedKernel SimulatedKernel) := { watched.2 with
      kernel := { watched.2.kernel with script := [none, none, none, none, some (.os 3)] } }
    let demand : Demand := .plain ⟨.write, ⟨0x1000⟩, 8, 0, none⟩
    let outcome := session.insertDemand demand
    let before := session.kernel.kernel.registerView
    let after := outcome.2.kernel.kernel.registerView
    (before.live ⟨2⟩ ⟨2⟩).map EncodedPoint.address = some ⟨0x1000⟩ ∧
    outcome.1 = .error (.kernel .pause ⟨2⟩ (.os 3)) ∧ session.canUndoInsertion demand = true ∧
    (∀ thread bank, outcome.2.tableOf session.capabilities.1 thread bank =
      session.tableOf session.capabilities.1 thread bank) ∧
    after.live = before.live ∧ after.writes = before.writes ∧ after.banks = before.banks ∧
    ∀ thread, after.legacy thread =
      if after.timesSet thread = before.timesSet thread then before.legacy thread else 0 := by
  intro kernel started watched session demand outcome before after
  let contract := ScriptedKernel.contract SimulatedKernel.registerContract
  have reached : Reaches started session :=
    ((Reaches.start.addThread ⟨2⟩).insertDemand (.plain ⟨.write, ⟨0x1000⟩, 4, 0, none⟩)).outside _ _
  have bare : contract.valid started.kernel := fun _ _ member => by cases member
  have valid : contract.valid session.kernel :=
    contract.stays.insertDemand _ _ (contract.stays.addThread started ⟨2⟩ bare)
  have refused : outcome.1 = .error (.kernel .pause ⟨2⟩ (.os 3)) := by decide
  have undone : session.canUndoInsertion demand = true := by decide
  exact ⟨by decide, refused, undone,
    failed_insertion_leaves_no_trace contract reached valid (Prod.ext refused rfl) undone⟩

end Requests

end Session

end DebugRegisters
