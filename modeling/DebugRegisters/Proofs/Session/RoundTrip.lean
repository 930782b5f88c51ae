import DebugRegisters.Proofs.Session.Mirrored
import DebugRegisters.Proofs.Session.Requests

/-!
# Removal after insertion

A request that is inserted and removed again leaves every slot and every
registration as it was, whatever happened before, as long as no call of the removal
fails. Points are removed in the order in which they were inserted, and each may be
new on one thread and shared on another. What carries the proof is what is still
owed: dropping the points that are not removed yet leads back to the tables before
the insertion, and what was registered since belongs to slots that were free then.
-/

set_option autoImplicit false

namespace DebugRegisters

namespace SimulatedKernel

variable {kernel middle after : SimulatedKernel}

/-- No call since `kernel` has an error on record. -/
def Succeeds (kernel after : SimulatedKernel) : Prop :=
  ∀ record ∈ after.calls.drop kernel.calls.length, record.error = none

instance (kernel after : SimulatedKernel) : Decidable (kernel.Succeeds after) :=
  inferInstanceAs (Decidable (∀ record ∈ after.calls.drop kernel.calls.length, record.error = none))

theorem Succeeds.split (succeeds : kernel.Succeeds after) (first : kernel.Continues middle)
    (second : middle.Continues after) : kernel.Succeeds middle ∧ middle.Succeeds after := by
  obtain ⟨before, early⟩ := first.calls
  obtain ⟨later, calls⟩ := second.calls
  have made : after.calls.drop kernel.calls.length = before ++ later := by
    rw [← calls, ← early, List.append_assoc, List.drop_left]
  unfold Succeeds at succeeds ⊢
  rw [made] at succeeds
  rw [← calls, List.drop_left, ← early, List.drop_left]
  exact ⟨fun record member => succeeds record (List.mem_append_left _ member),
    fun record member => succeeds record (List.mem_append_right _ member)⟩

theorem Enters.not_succeeds {call : KernelCall} {thread : ThreadId} {cause : KernelError}
    (entered : kernel.Enters call thread (some cause) after) : ¬kernel.Succeeds after := by
  intro succeeds
  unfold Succeeds at succeeds
  rw [entered.calls, List.drop_left] at succeeds
  cases succeeds _ List.mem_cons_self

/-- Questions change no registration. -/
theorem acrossQuestions_registrations :
    AcrossQuestions fun kernel after : SimulatedKernel =>
      ∀ thread, (after.threads thread).registrations = (kernel.threads thread).registrations where
  refl _ _ := rfl
  trans first second thread := (second thread).trans (first thread)
  debugInfo kernel thread other := by rw [(debugInfo_keeps kernel thread).threads]
  writeLegacy kernel thread value other := by
    have outcome := writesLegacy kernel thread value
    generalize Kernel.writeLegacy kernel thread value = reply at outcome
    cases outcome with
    | refused entered => rw [entered.threads]
    | written entered => rw [registrations_withLegacy, entered.threads]
  lastTrap kernel thread other := by rw [(lastTrap_keeps kernel thread).threads]

end SimulatedKernel

/-- The slots and registrations of a thread since a time when its tables were
`former`, its registrations `live`, and `next` the number of the next one. -/
structure Surplus (caps : Capabilities) (former now : RegisterBank → SlotTable) (next : Int)
    (live grown : List (Int × Registration)) : Prop where
  later : ∀ bank index slot number, (former bank).get? index = some .free →
    (now bank).get? index = some slot → slot.handle = some ⟨number⟩ →
    caps.interface = .handles ∧ next ≤ number
  added : ∃ added, grown = live ++ added ∧ ∀ entry ∈ added, ∃ bank index slot,
    (former bank).get? index = some .free ∧ (now bank).get? index = some slot ∧
      slot.handle = some ⟨entry.1⟩

namespace Surplus

variable {caps : Capabilities} {former now : RegisterBank → SlotTable} {next number : Int}
  {live grown : List (Int × Registration)} {bank : RegisterBank} {index : Nat} {slot : Slot}

theorem start (caps : Capabilities) (former : RegisterBank → SlotTable) (next : Int)
    (live : List (Int × Registration)) : Surplus caps former former next live live where
  later bank index slot number isFree there kept := by
    rw [isFree] at there
    cases there
    cases kept
  added := ⟨[], (List.append_nil live).symm, fun entry member => by cases member⟩

/-- Where all slots are as before, all registrations are. -/
theorem settled (surplus : Surplus caps former former next live grown) : grown = live := by
  obtain ⟨added, rfl, found⟩ := surplus.added
  cases added with
  | nil => exact List.append_nil live
  | cons entry rest =>
      obtain ⟨bank, index, slot, isFree, there, kept⟩ := found entry List.mem_cons_self
      rw [isFree] at there
      cases there
      cases kept

/-- Where the kernel has no part in it, a slot that was free has no handle. -/
theorem bare (surplus : Surplus caps former now next live grown)
    (isFree : (former bank).get? index = some .free) (there : (now bank).get? index = some slot)
    (bare : caps.interface = .handles → slot.handle = none) : slot.handle = none := by
  cases kept : slot.handle with
  | none => rfl
  | some handle =>
      have handles := (surplus.later bank index slot handle.number isFree there kept).1
      rw [bare handles] at kept
      cases kept

/-- A slot that keeps its handle keeps its registration. -/
theorem edit (surplus : Surplus caps former now next live grown) {change : Slot → Slot}
    (there : (now bank).get? index = some slot) (same : (change slot).handle = slot.handle) :
    Surplus caps former (editSlot now bank index change) next live grown where
  later other position twin number isFree found kept := by
    rcases get?_editSlot_cases found with ⟨rfl, rfl, before, held, rfl⟩ | ⟨_, found⟩
    · rw [there] at held
      cases held
      exact surplus.later other position slot number isFree there (same ▸ kept)
    · exact surplus.later other position twin number isFree found kept
  added := by
    obtain ⟨added, split, owned⟩ := surplus.added
    refine ⟨added, split, fun entry member => ?_⟩
    obtain ⟨other, position, owner, isFree, found, kept⟩ := owned entry member
    by_cases here : other = bank ∧ position = index
    · obtain ⟨rfl, rfl⟩ := here
      rw [there] at found
      cases found
      exact ⟨other, position, _, isFree, get?_editSlot_self there, same.trans kept⟩
    · exact ⟨other, position, owner, isFree, (get?_editSlot_of_ne here).trans found, kept⟩

/-- A free slot is taken with a registration. -/
theorem occupy (surplus : Surplus caps former now next live grown)
    (handles : caps.interface = .handles) (isFree : (former bank).get? index = some .free)
    (there : (now bank).get? index = some .free) (more : next ≤ number) {point : EncodedPoint}
    {references : Nat} (registration : Registration) :
    Surplus caps former
      (editSlot now bank index fun _ => ⟨some point, references, some ⟨number⟩⟩) next live
      (grown ++ [(number, registration)]) where
  later other position twin held wasFree found kept := by
    rcases get?_editSlot_cases found with ⟨rfl, rfl, _, _, rfl⟩ | ⟨_, found⟩
    · cases kept
      exact ⟨handles, more⟩
    · exact surplus.later other position twin held wasFree found kept
  added := by
    obtain ⟨added, rfl, owned⟩ := surplus.added
    refine ⟨added ++ [(number, registration)], List.append_assoc .., fun entry member => ?_⟩
    rcases List.mem_append.mp member with before | new
    · obtain ⟨other, position, owner, wasFree, found, kept⟩ := owned entry before
      refine ⟨other, position, owner, wasFree, (get?_editSlot_of_ne ?_).trans found, kept⟩
      rintro ⟨rfl, rfl⟩
      rw [there] at found
      cases found
      cases kept
    · rw [List.mem_singleton.mp new]
      exact ⟨bank, index, _, isFree, get?_editSlot_self there, rfl⟩

/-- A slot that was free is given up with its registration, and those from before
stay. -/
theorem free (surplus : Surplus caps former now next live grown)
    (older : ∀ entry ∈ live, entry.1 < next) (isFree : (former bank).get? index = some .free)
    (there : (now bank).get? index = some slot) (kept : slot.handle = some ⟨number⟩) :
    Surplus caps former (editSlot now bank index fun _ => .free) next live
      (grown.filter fun entry => entry.1 ≠ number) where
  later other position twin held wasFree found keeps := by
    rcases get?_editSlot_cases found with ⟨rfl, rfl, _, _, rfl⟩ | ⟨_, found⟩
    · cases keeps
    · exact surplus.later other position twin held wasFree found keeps
  added := by
    obtain ⟨added, rfl, owned⟩ := surplus.added
    have low := (surplus.later bank index slot number isFree there kept).2
    have stay : live.filter (fun entry => entry.1 ≠ number) = live :=
      List.filter_eq_self.mpr fun entry member => by
        have under := older entry member
        exact decide_eq_true (by omega)
    refine ⟨added.filter fun entry => entry.1 ≠ number, by rw [List.filter_append, stay],
      fun entry member => ?_⟩
    obtain ⟨before, different⟩ := List.mem_filter.mp member
    obtain ⟨other, position, owner, wasFree, found, keeps⟩ := owned entry before
    refine ⟨other, position, owner, wasFree, (get?_editSlot_of_ne ?_).trans found, keeps⟩
    rintro ⟨rfl, rfl⟩
    rw [there] at found
    cases found
    rw [kept] at keeps
    cases keeps
    exact of_decide_eq_true different rfl

end Surplus

namespace Session

open SimulatedKernel

variable {caps : Capabilities} {base now after : Session SimulatedKernel}
  {placement : Placement} {owed rest done placements : List Placement}

def Exceeds (caps : Capabilities) (base now : Session SimulatedKernel) : Prop :=
  ∀ thread, Surplus caps (base.tableOf caps thread) (now.tableOf caps thread)
    base.kernel.nextHandle (base.kernel.threads thread).registrations
    (now.kernel.threads thread).registrations

/-- Dropping the points in `owed` leads from `now` back to the tables of `base`, and
the registrations beyond those of `base` are of the same slots. -/
structure Owes (caps : Capabilities) (base now : Session SimulatedKernel)
    (owed : List Placement) : Prop where
  kept : now.TablesKept caps
  tables : ∀ thread bank,
    (pointsOn thread owed).foldl (SlotTable.dropFrom bank) (now.tableOf caps thread bank) =
      base.tableOf caps thread bank
  next : base.kernel.nextHandle ≤ now.kernel.nextHandle
  exceeds : Exceeds caps base now

namespace Owes

theorem start (kept : base.TablesKept caps) : Owes caps base base [] where
  kept
  tables _ _ := rfl
  next := le_refl _
  exceeds _ := .start caps _ _ _

theorem congr (owes : Owes caps base now owed) (tables : after.tableOf caps = now.tableOf caps)
    (kernel : after.kernel = now.kernel) : Owes caps base after owed where
  kept := owes.kept.congr tables
  tables := tables ▸ owes.tables
  next := kernel ▸ owes.next
  exceeds thread := by
    rw [tables, kernel]
    exact owes.exceeds thread

/-- It does not matter in which order the points are owed. -/
theorem perm (owes : Owes caps base now owed) (same : owed.Perm rest) : Owes caps base now rest where
  kept := owes.kept
  tables thread bank := by
    have alike : (pointsOn thread owed).Perm (pointsOn thread rest) := (same.filter _).map _
    rw [← SlotTable.foldl_dropFrom_perm alike]
    exact owes.tables thread bank
  next := owes.next
  exceeds := owes.exceeds

/-- What is free by now was free before. -/
theorem isFree (owes : Owes caps base now owed) {thread : ThreadId} {bank : RegisterBank}
    {index : Nat} (there : (now.tableOf caps thread bank).get? index = some .free) :
    (base.tableOf caps thread bank).get? index = some .free := by
  rw [← owes.tables]
  exact SlotTable.get?_foldl_dropFrom_of_free there rfl

theorem settled (owes : Owes caps base now []) (thread : ThreadId) :
    now.tableOf caps thread = base.tableOf caps thread ∧
      (now.kernel.threads thread).registrations = (base.kernel.threads thread).registrations := by
  have same : now.tableOf caps thread = base.tableOf caps thread := funext (owes.tables thread)
  have surplus := owes.exceeds thread
  rw [same] at surplus
  exact ⟨same, surplus.settled⟩

/-- A slot of one thread changed, and the registrations of this thread with it. -/
theorem exceeds_of_puts (owes : Owes caps base now owed) {index : Nat} {edit : Slot → Slot}
    (changes : now.kernel.ChangesOn placement.thread after.kernel)
    (puts : now.Puts caps placement ((now.target caps placement).modify index edit) after)
    (here : Surplus caps (base.tableOf caps placement.thread)
      (editSlot (now.tableOf caps placement.thread) placement.point.kind.bank index edit)
      base.kernel.nextHandle (base.kernel.threads placement.thread).registrations
      (after.kernel.threads placement.thread).registrations) : Exceeds caps base after := by
  intro thread
  by_cases ours : thread = placement.thread
  · subst ours
    rwa [puts.tableOf_self]
  · rw [puts.tableOf_of_ne ours, changes.elsewhere thread ours]
    exact owes.exceeds thread

section Installing

theorem exceeds_of_takes (owes : Owes caps base now owed) (taken : now.Takes caps placement after) :
    Exceeds caps base after := by
  have changes := taken.changesOn
  have before := owes.exceeds placement.thread
  cases taken with
  | joined paused there _ puts =>
      refine owes.exceeds_of_puts changes puts ?_
      rw [paused.threads]
      exact before.edit there rfl
  | marked _ paused there isFree _ puts =>
      refine owes.exceeds_of_puts changes puts ?_
      rw [paused.threads]
      exact before.edit there (by rw [(owes.kept _ _).eq_free there isFree]; rfl)
  | written _ paused begun made there isFree _ puts =>
      refine owes.exceeds_of_puts changes puts ?_
      rw [made, registrations_withLegacy, begun.threads, paused.threads]
      exact before.edit there (by rw [(owes.kept _ _).eq_free there isFree]; rfl)
  | registered handles paused begun made there isFree _ puts =>
      refine owes.exceeds_of_puts changes puts ?_
      rw [made, registrations_withRegistration_self, begun.threads, begun.nextHandle,
        paused.threads, paused.nextHandle]
      rw [(owes.kept _ _).eq_free there isFree] at there
      exact before.occupy handles (owes.isFree there) there owes.next _

theorem install (owes : Owes caps base now owed)
    (installed : install caps now placement = (.ok (), after)) :
    Owes caps base after (placement :: owed) where
  kept := owes.kept.install installed
  tables thread bank := by
    have split : pointsOn thread (placement :: owed) =
        pointsOn thread [placement] ++ pointsOn thread owed := pointsOn_append thread [placement] owed
    rw [split, List.foldl_append, owes.kept.drop_install installed]
    exact owes.tables thread bank
  next := owes.next.trans (takes_of_install installed).changesOn.answers.next
  exceeds := owes.exceeds_of_takes (takes_of_install installed)

theorem installAll (owes : Owes caps base now owed)
    (installed : installAll caps done now placements = (.ok (), after)) :
    Owes caps base after (placements.reverse ++ owed) := by
  induction placements generalizing now owed done with
  | nil =>
      cases installed
      exact owes
  | cons placement rest ih =>
      unfold Session.installAll at installed
      split at installed
      · next middle first =>
          rw [List.reverse_cons, List.append_assoc]
          exact ih (owes.install first) installed
      · cases installed

theorem insertPoints (kept : base.TablesKept caps) {points : List EncodedPoint}
    (inserted : insertPoints caps base points = (.ok (), after)) :
    Owes caps base after (base.placements points) := by
  unfold Session.insertPoints at inserted
  split at inserted
  · cases inserted
    exact (start kept).perm (by simp [Session.placements])
  · next first more =>
      have checked := tableOf_checkRoom base caps first.kind.bank (first :: more) base.threads
      split at inserted
      · cases inserted
      · next sets room =>
          rw [room] at checked
          split at inserted
          · cases inserted
          · next final installed =>
              cases inserted
              have begun : Owes caps base { base with sets } [] := (start kept).congr checked rfl
              have shown := sameTables_showRegisters final "insert"
              refine ((begun.installAll installed).congr (tableOf_congr shown.sets caps) ?_).perm ?_
              · exact kernel_showRegisters final "insert"
              · rw [List.append_nil]
                exact List.reverse_perm _

end Installing

section Uninstalling

/-- Whichever slot is given up was free before, so that its handle is of a
registration that was made since. -/
theorem exceeds_of_givesUp (owes : Owes caps base now owed) (numbered : base.kernel.IsNumbered)
    (given : now.GivesUp caps placement after) (succeeds : now.kernel.Succeeds after.kernel)
    (freed : ∀ index, (after.target caps placement).get? index = some .free →
      (base.target caps placement).get? index = some .free) : Exceeds caps base after := by
  have changes := given.changesOn
  have before := owes.exceeds placement.thread
  have emptied : ∀ {index slot}, (now.target caps placement).get? index = some slot →
      now.Puts caps placement ((now.target caps placement).modify index fun _ => .free) after →
      (base.target caps placement).get? index = some .free := by
    intro index slot there puts
    refine freed index ?_
    unfold target
    rw [puts.here, SlotTable.get?_modify_self, there]
    rfl
  cases given with
  | left same there _ _ puts =>
      refine owes.exceeds_of_puts changes puts ?_
      rw [same]
      exact before.edit there rfl
  | apart same _ bare there _ puts =>
      refine owes.exceeds_of_puts changes puts ?_
      rw [same]
      exact before.edit there (before.bare (emptied there puts) there bare).symm
  | cleared legacy begun made there _ puts =>
      refine owes.exceeds_of_puts changes puts ?_
      rw [made, registrations_withLegacy, begun.threads]
      have none := before.bare (emptied there puts) there fun handles => by
        rw [legacy] at handles
        cases handles
      exact before.edit there none.symm
  | @dropped _ _ held _ _ kept begun made there _ puts =>
      refine owes.exceeds_of_puts changes puts ?_
      obtain ⟨number⟩ := held
      rw [made, withoutRegistration, threads_update_self, ThreadRegisters.drop, begun.threads]
      exact before.free (numbered placement.thread) (emptied there puts) there kept
  | gone _ _ _ refused =>
      cases refused with
      | refused entered | unknown entered => exact absurd succeeds entered.not_succeeds

theorem uninstall (owes : Owes caps base now (placement :: owed))
    (numbered : base.kernel.IsNumbered) {found : Bool}
    (given : uninstall caps now placement = (.ok found, after))
    (succeeds : now.kernel.Succeeds after.kernel) : Owes caps base after owed := by
  have tables : ∀ thread bank,
      (pointsOn thread owed).foldl (SlotTable.dropFrom bank) (after.tableOf caps thread bank) =
        base.tableOf caps thread bank := by
    intro thread bank
    rw [tableOf_of_uninstall given, ← List.foldl_append, ← pointsOn_append]
    exact owes.tables thread bank
  cases found with
  | false =>
      obtain ⟨rfl, _⟩ := uninstall_false given
      exact ⟨owes.kept, tables, owes.next, owes.exceeds⟩
  | true =>
      have gives := givesUp_of_uninstall given
      refine ⟨owes.kept.uninstall given, tables, owes.next.trans gives.changesOn.answers.next,
        owes.exceeds_of_givesUp numbered gives succeeds fun index isFree => ?_⟩
      unfold target
      rw [← tables]
      exact SlotTable.get?_foldl_dropFrom_of_free isFree rfl

/-- Where no call fails, all that is owed is given up, and nothing is left of it. -/
theorem uninstallAll (owes : Owes caps base now placements) (numbered : base.kernel.IsNumbered)
    (trackedDone : now.Tracked done) (tracked : now.Tracked placements)
    {result : Except PointError Unit}
    (removed : uninstallAll caps done now placements = (result, after))
    (succeeds : now.kernel.Succeeds after.kernel) : result = .ok () ∧ Owes caps base after [] := by
  induction placements generalizing now done with
  | nil =>
      cases removed
      exact ⟨rfl, owes⟩
  | cons placement rest ih =>
      have there := tracked placement List.mem_cons_self
      have same := uninstall_sameProcess caps now placement
      have first := acrossChanges_continues.uninstall caps now placement
      unfold Session.uninstallAll at removed
      cases outcome : Session.uninstall caps now placement with
      | mk answer middle =>
          rw [outcome] at removed same first
          have trackedRest := tracked.rest.after same
          have principle := acrossChanges_continues.keptByChanges caps middle.kernel
          cases answer with
          | error cause =>
              cases removed
              let told := middle.notify (.removeFailed placement.point placement.thread cause)
              have trackedTold : told.Tracked done :=
                trackedDone.after (same.trans ⟨rfl, rfl, rfl, rfl, rfl⟩)
              have undone := principle.restore trackedTold (.refl middle.kernel)
              obtain ⟨call, error, entered, _⟩ := fails_of_uninstall_error outcome
              exact absurd (succeeds.split first undone).1 entered.not_succeeds
          | ok found =>
              have settle : ∀ done, middle.Tracked done →
                  Session.uninstallAll caps done middle rest = (result, after) →
                  result = .ok () ∧ Owes caps base after [] := by
                intro done trackedDone removed
                have second := principle.uninstallAll trackedDone trackedRest (.refl middle.kernel)
                rw [removed] at second
                obtain ⟨early, late⟩ := succeeds.split first second
                exact ih (owes.uninstall numbered outcome early) trackedDone trackedRest removed late
              cases found with
              | true => exact settle _ ((trackedDone.push there).after same) removed
              | false => exact settle _ (trackedDone.after same) removed

theorem removePoints {points : List EncodedPoint} (owes : Owes caps base now (now.placements points))
    (numbered : base.kernel.IsNumbered) {result : Except PointError Unit}
    (removed : removePoints caps now points = (result, after))
    (succeeds : now.kernel.Succeeds after.kernel) : result = .ok () ∧ Owes caps base after [] := by
  unfold Session.removePoints at removed
  cases outcome : Session.uninstallAll caps [] now (now.placements points) with
  | mk answer final =>
      rw [outcome] at removed
      have kernel : after.kernel = final.kernel := by
        cases answer <;> cases removed
        · rfl
        · exact kernel_showRegisters final "remove"
      rw [kernel] at succeeds
      obtain ⟨rfl, settled⟩ := owes.uninstallAll numbered (tracked_nil now)
        (tracked_placements now points) outcome succeeds
      cases removed
      exact ⟨rfl, settled.congr (tableOf_congr (sameTables_showRegisters final "remove").sets caps)
        kernel⟩

end Uninstalling

end Owes

section Requests

variable {session inserted : Session SimulatedKernel} {demand : Demand}
  {result : Except PointError Unit}

/-- A demand without a condition is found again right after its insertion, and its
removal leads back if no call fails. -/
theorem restored_of_removeDemand (sound : session.Sound) (numbered : session.kernel.IsNumbered)
    (inhabited : session.threads ≠ []) (unconditional : demand.condition? = none)
    (taken : session.insertDemand demand = (.ok (), inserted))
    (removed : inserted.removeDemand demand = (result, after))
    (succeeds : inserted.kernel.Succeeds after.kernel) :
    result = .ok () ∧ ∀ thread,
      after.tableOf session.capabilities.1 thread = session.tableOf session.capabilities.1 thread ∧
      (after.kernel.threads thread).registrations =
        (session.kernel.threads thread).registrations := by
  have soundNow := keptByEvents_sound.insertDemand sound demand
  have same := insertDemand_sameProcess session demand
  rw [taken] at soundNow same
  have found : inserted.capabilities = (session.capabilities.1, inserted) :=
    capabilities_of_known same.capabilities?
  rcases insertDemand_cases session demand with ⟨error, refused⟩ | ⟨notice, points, serves, begun⟩
  · rw [refused] at taken
    cases taken
  · rw [begun] at taken
    let told := session.capabilities.2.notify notice
    have soundTold : told.Sound := (keptByEvents_sound.probe sound).congr rfl rfl
    have numberedTold : told.kernel.IsNumbered := acrossCalls_numbered.capabilities session numbered
    have installed : inserted.isInstalled points = true := by
      obtain ⟨thread, tracked⟩ := List.exists_mem_of_ne_nil _ inhabited
      obtain ⟨kind, some, kinds⟩ := serves.shape
      refine isInstalled_of_held soundNow thread some kinds fun point member => ?_
      rw [insertPoints_ok soundTold taken tracked]
      exact Multiset.mem_add.mpr (.inl (Multiset.mem_coe.mpr member))
    have servesNow : Serves inserted.capabilities.1 inserted.restriction.table? demand points := by
      rw [found, same.restriction]
      exact serves
    obtain ⟨report, given⟩ := removeDemand_of_serves unconditional servesNow (by rwa [found])
    rw [given, found] at removed
    have placed : (inserted.notify report).placements points = told.placements points :=
      congrArg (List.flatMap _) same.threads
    have owes : Owes session.capabilities.1 told (inserted.notify report)
        ((inserted.notify report).placements points) := by
      rw [placed]
      exact (Owes.insertPoints (soundTold.tablesKept _) taken).congr (tableOf_congr rfl _) rfl
    obtain ⟨done, settled⟩ := owes.removePoints numberedTold removed succeeds
    refine ⟨done, fun thread => ?_⟩
    obtain ⟨tables, registrations⟩ := settled.settled thread
    exact ⟨tables, registrations.trans (acrossQuestions_registrations.capabilities session thread)⟩

/-- A demand without a condition that is inserted and removed again leaves no trace,
whatever happened before, as long as no call of the removal fails: the removal
succeeds, every table is slot for slot as before, and every thread has the
registrations it had, under the same handles. -/
theorem removal_undoes_insertion {kernel : SimulatedKernel} {leader : ThreadId}
    {settings : Settings} {capabilities? : Option Capabilities}
    (bare : ∀ thread, (kernel.threads thread).registrations = []) {history : History}
    (reached : History.Leads (fun _ _ => True)
      (.ofSession (.start kernel leader settings capabilities?)) history)
    (inhabited : history.session.threads ≠ []) (unconditional : demand.condition? = none)
    (taken : history.session.insertDemand demand = (.ok (), inserted))
    (removed : inserted.removeDemand demand = (result, after))
    (succeeds : inserted.kernel.Succeeds after.kernel) :
    result = .ok () ∧
    (∀ thread bank, after.tableOf history.session.capabilities.1 thread bank =
      history.session.tableOf history.session.capabilities.1 thread bank) ∧
    ∀ thread, (after.kernel.threads thread).registrations =
      (history.session.kernel.threads thread).registrations := by
  have sound : history.session.Sound :=
    reached.kept keptByEvents_sound (sound_start kernel leader settings capabilities?)
  have numbered := isNumbered_of_leads bare reached
  obtain ⟨done, restored⟩ :=
    restored_of_removeDemand sound numbered inhabited unconditional taken removed succeeds
  exact ⟨done, fun thread bank => congrFun (restored thread).1 bank, fun thread => (restored thread).2⟩

/-- An insertion was refused by the second thread and could not be undone on the first.
The next one joins a slot on the first thread and takes one on the second. -/
theorem removal_undoes_insertion_out_of_step :
    let demand : Demand := .plain ⟨.execute, ⟨0x1000⟩, 0, 4, none⟩
    let history := (History.ofSession (.start .embedded ⟨1⟩ .standard none)).afterAll
      [.newThread ⟨2⟩, .fail ⟨.register, some ⟨2⟩, .os 12⟩, .fail ⟨.deregister, some ⟨1⟩, .os 5⟩,
        .insert demand]
    let taken := history.session.insertDemand demand
    let outcome := taken.2.removeDemand demand
    (history.session.tableOf history.session.capabilities.1 ⟨1⟩ .breakpoints).contents ≠
      (history.session.tableOf history.session.capabilities.1 ⟨2⟩ .breakpoints).contents ∧
    taken.1 = .ok () ∧ taken.2.kernel.Succeeds outcome.2.kernel ∧ outcome.1 = .ok () ∧
    (∀ thread bank, outcome.2.tableOf history.session.capabilities.1 thread bank =
      history.session.tableOf history.session.capabilities.1 thread bank) ∧
    ∀ thread, (outcome.2.kernel.threads thread).registrations =
      (history.session.kernel.threads thread).registrations := by
  intro demand history taken outcome
  have inserted : taken.1 = .ok () := by decide
  have succeeds : taken.2.kernel.Succeeds outcome.2.kernel := by decide
  have reached : History.Leads (fun _ _ => True)
      (.ofSession (.start .embedded ⟨1⟩ .standard none)) history :=
    History.leads_afterAll .start (by decide)
  have given : taken = (.ok (), taken.2) := by rw [← inserted]
  have removed : outcome = (outcome.1, outcome.2) := (Prod.eta outcome).symm
  exact ⟨by decide, inserted, succeeds,
    removal_undoes_insertion (fun _ => rfl) reached (by decide) rfl given removed succeeds⟩

end Requests

end Session

end DebugRegisters
