import DebugRegisters.Proofs.Session.Accounting.Balance
import DebugRegisters.Proofs.Session.Arrivals
import DebugRegisters.Proofs.SlotTable.Dropping

/-!
# Changes seen table by table

A session seen as one table for each thread and bank; a thread without a set has
empty ones. Installing a point and giving one up replace a single table by what
the slot table makes of it, and where they fail they replace none.
-/

set_option autoImplicit false

namespace DebugRegisters.Session

variable {κ : Type}

/-- A table of a thread; a thread without a set has empty ones. -/
def tableOf (session : Session κ) (caps : Capabilities) (thread : ThreadId) (bank : RegisterBank) :
    SlotTable :=
  (session.pointsOf caps thread).table bank

structure Puts (session : Session κ) (caps : Capabilities) (placement : Placement)
    (table : SlotTable) (after : Session κ) : Prop where
  here : after.tableOf caps placement.thread placement.point.kind.bank = table
  elsewhere : ∀ thread bank, ¬(thread = placement.thread ∧ bank = placement.point.kind.bank) →
    after.tableOf caps thread bank = session.tableOf caps thread bank

abbrev target (session : Session κ) (caps : Capabilities) (placement : Placement) : SlotTable :=
  session.tableOf caps placement.thread placement.point.kind.bank

section Views

variable {session after : Session κ} {caps : Capabilities} {placement : Placement}
  {table : SlotTable}

theorem tableOf_congr (sets : after.sets = session.sets) (caps : Capabilities) :
    after.tableOf caps = session.tableOf caps := by
  funext thread bank
  simp only [tableOf, pointsOf, sets]

theorem tableOf_of_get? {thread : ThreadId} {points : ThreadPoints}
    (there : session.sets.get? thread = some points) (caps : Capabilities) (bank : RegisterBank) :
    session.tableOf caps thread bank = points.table bank := by
  rw [tableOf, pointsOf, there, Option.getD_some]

theorem tableOf_eq_table {thread : ThreadId} {points : ThreadPoints}
    (there : session.sets.get? thread = some points) (caps : Capabilities) :
    session.tableOf caps thread = points.table :=
  funext (tableOf_of_get? there caps)

theorem tableOf_of_none {thread : ThreadId} (absent : session.sets.get? thread = none)
    (caps : Capabilities) (bank : RegisterBank) :
    session.tableOf caps thread bank = .empty bank (caps.slots bank) := by
  rw [tableOf, pointsOf, absent, Option.getD_none]
  cases bank <;> rfl

theorem tableOf_of_bare (bare : session.sets.toList = []) (caps : Capabilities)
    (thread : ThreadId) (bank : RegisterBank) :
    session.tableOf caps thread bank = .empty bank (caps.slots bank) :=
  tableOf_of_none (by simp [ThreadSets.get?, bare]) caps bank

theorem tableOf_insert_of_ne {points : ThreadPoints} {other : ThreadId}
    (different : other ≠ points.thread) (session : Session κ) (caps : Capabilities) :
    tableOf { session with sets := session.sets.insert points } caps other =
      session.tableOf caps other := by
  funext bank
  unfold tableOf pointsOf
  rw [ThreadSets.get?_insert_of_ne _ points different]

theorem tableOf_forget_of_ne {thread other : ThreadId} (different : other ≠ thread)
    (session : Session κ) (caps : Capabilities) :
    (session.forget thread).tableOf caps other = session.tableOf caps other := by
  funext bank
  unfold tableOf pointsOf forget
  rw [ThreadSets.get?_erase_of_ne session.sets different]

theorem tableOf_ensure (session : Session κ) (caps : Capabilities) (thread : ThreadId) :
    tableOf { session with sets := session.sets.ensure thread caps } caps = session.tableOf caps := by
  funext other bank
  unfold tableOf pointsOf
  by_cases here : other = thread
  · subst here
    rw [ThreadSets.get?_ensure_self, Option.getD_some]
  · rw [ThreadSets.get?_ensure_of_ne _ _ here]

theorem tableOf_markSlot (session : Session κ) (placement : Placement) (index : Nat)
    (caps : Capabilities) :
    (session.markSlot placement index).tableOf caps = session.tableOf caps := by
  funext thread bank
  unfold tableOf pointsOf
  by_cases here : thread = placement.thread
  · subst here
    rw [get?_markSlot_self]
    cases session.sets.get? placement.thread with
    | none => rfl
    | some points => exact ThreadPoints.table_markDirty _ _ _ _
  · rw [get?_markSlot_of_ne _ _ here]

theorem puts_withTable (session : Session κ) (caps : Capabilities) (placement : Placement)
    (table : SlotTable) (side : KernelSide κ) :
    session.Puts caps placement table (session.withTable caps placement table side) where
  here := by
    rw [tableOf_of_get? (get?_withTable_self _ _ _ _ _), ThreadPoints.table_setTable_self]
  elsewhere thread bank other := by
    by_cases here : thread = placement.thread
    · subst here
      have apart : bank ≠ placement.point.kind.bank := fun same => other ⟨rfl, same⟩
      rw [tableOf_of_get? (get?_withTable_self _ _ _ _ _), ThreadPoints.table_setTable_of_ne _ _ apart]
      rfl
    · unfold tableOf pointsOf
      rw [get?_withTable_of_ne _ _ _ _ _ here]

theorem Puts.congr (puts : session.Puts caps placement table after) {final : Session κ}
    (same : final.tableOf caps = after.tableOf caps) : session.Puts caps placement table final :=
  ⟨same ▸ puts.here, fun thread bank other => same ▸ puts.elsewhere thread bank other⟩

theorem Puts.refl (session : Session κ) (caps : Capabilities) (placement : Placement) :
    session.Puts caps placement (session.target caps placement) session :=
  ⟨rfl, fun _ _ _ => rfl⟩

/-- Seen from the session after it, a change puts the former table in place. -/
theorem Puts.symm (puts : session.Puts caps placement table after) :
    after.Puts caps placement (session.target caps placement) session :=
  ⟨rfl, fun thread bank other => (puts.elsewhere thread bank other).symm⟩

/-- A table that is put in place is what `step` makes of its point, on its own
thread and in its own bank. -/
theorem Puts.tableOf_foldl (puts : session.Puts caps placement table after)
    {thread : ThreadId} {bank : RegisterBank} {step : SlotTable → EncodedPoint → SlotTable}
    (here : placement.point.kind.bank = bank →
      step (session.target caps placement) placement.point = table)
    (elsewhere : placement.point.kind.bank ≠ bank → ∀ table, step table placement.point = table) :
    after.tableOf caps thread bank =
      (pointsOn thread [placement]).foldl step (session.tableOf caps thread bank) := by
  by_cases ours : placement.thread = thread
  · subst ours
    by_cases same : placement.point.kind.bank = bank
    · subst same
      simpa [pointsOn, here] using puts.here
    · simpa [pointsOn, elsewhere same] using puts.elsewhere _ bank fun twin => same twin.2.symm
  · simpa [pointsOn, ours] using puts.elsewhere thread bank fun twin => ours twin.1.symm

theorem Puts.unchanged
    (puts : session.Puts caps placement
      (session.tableOf caps placement.thread placement.point.kind.bank) after) :
    after.tableOf caps = session.tableOf caps := by
  funext thread bank
  by_cases here : thread = placement.thread ∧ bank = placement.point.kind.bank
  · obtain ⟨rfl, rfl⟩ := here
    exact puts.here
  · exact puts.elsewhere thread bank here

end Views

section Placing

variable [Kernel κ] {session after : Session κ} {caps : Capabilities} {placement : Placement}

/-- A point is installed on a thread that could be stopped, by its table. -/
theorem install_ok (installed : install caps session placement = (.ok (), after)) :
    ∃ kernel insertion table, ∃ side : KernelSide κ,
      Kernel.pause session.kernel placement.thread = (.ok (), kernel) ∧
      (session.target caps placement).Inserts placement.point ⟨kernel, session.legacyValue⟩
        (KernelSide.takeSlot caps placement.thread) (.ok insertion, table, side) ∧
      after.kernel = side.kernel ∧ after.legacyValue = side.legacyValue ∧
      after.notices =
        session.notices ++ [.slotHolds placement.thread placement.point insertion] ∧
      session.Puts caps placement table after := by
  have outcome := installs caps session placement
  rw [installed] at outcome
  cases outcome with
  | @held kernel insertion table side notices paused inserted settled told =>
      have puts := session.puts_withTable caps placement table side
      exact ⟨kernel, insertion, table, side, paused, inserted, rfl, rfl, told,
        puts.congr (tableOf_congr rfl caps)⟩
  | @marked kernel insertion table side notices paused inserted arrays told =>
      have puts := session.puts_withTable caps placement table side
      have marked := tableOf_markSlot (session.withTable caps placement table side) placement
        insertion.index caps
      exact ⟨kernel, insertion, table, side, paused, inserted, rfl, rfl, told,
        puts.congr ((tableOf_congr rfl caps).trans marked)⟩

/-- An installation fails when the thread cannot be stopped or its table takes
no slot, and leaves all tables. -/
theorem install_error {error : PointError}
    (refused : install caps session placement = (.error error, after)) :
    after.tableOf caps = session.tableOf caps ∧ after.notices = session.notices ∧
      ((∃ cause, Kernel.pause session.kernel placement.thread = (.error cause, after.kernel) ∧
          error = .kernel .pause placement.thread cause) ∨
        ∃ kernel table, ∃ side : KernelSide κ,
          Kernel.pause session.kernel placement.thread = (.ok (), kernel) ∧
          (session.target caps placement).Inserts placement.point ⟨kernel, session.legacyValue⟩
            (KernelSide.takeSlot caps placement.thread) (.error error, table, side) ∧
          after.kernel = side.kernel) := by
  have outcome := installs caps session placement
  rw [refused] at outcome
  cases outcome with
  | running paused => exact ⟨tableOf_congr rfl caps, rfl, .inl ⟨_, paused, rfl⟩⟩
  | @refused kernel _ table side paused inserted =>
      have puts := session.puts_withTable caps placement table side
      have same : table = session.target caps placement := inserted.unchanged
      rw [same] at puts
      rw [same]
      exact ⟨puts.unchanged, rfl, .inr ⟨kernel, table, side, paused, inserted, rfl⟩⟩

/-- A point that is given up was there, and its table lets it go. -/
theorem uninstall_true (given : uninstall caps session placement = (.ok true, after)) :
    ∃ removal table, ∃ side : KernelSide κ, ∃ reports,
      (session.target caps placement).Removes placement.point
        (⟨session.kernel, session.legacyValue⟩, []) (giveUp caps placement.thread)
        (.ok removal, table, side, reports) ∧
      after.kernel = side.kernel ∧ after.legacyValue = side.legacyValue ∧
      after.notices = session.notices ++ reports ++
        [.slotReleased placement.thread placement.point removal] ∧
      session.Puts caps placement table after := by
  have outcome := uninstalls caps session placement
  rw [given] at outcome
  cases outcome with
  | @dropped points removal table side reports notices there removed settled told =>
      have puts := session.puts_withTable caps placement table side
      rw [← tableOf_of_get? there caps] at removed
      exact ⟨removal, table, side, reports, removed, rfl, rfl, told,
        puts.congr (tableOf_congr rfl caps)⟩
  | @marked points removal table side reports notices there removed arrays told =>
      have puts := session.puts_withTable caps placement table side
      have marked := tableOf_markSlot (session.withTable caps placement table side) placement
        removal.index caps
      rw [← tableOf_of_get? there caps] at removed
      exact ⟨removal, table, side, reports, removed, rfl, rfl, told,
        puts.congr ((tableOf_congr rfl caps).trans marked)⟩

/-- A point that cannot be given up is there with its last reference, and stays in its
table. -/
theorem uninstall_error {error : PointError}
    (refused : uninstall caps session placement = (.error error, after)) :
    after.tableOf caps = session.tableOf caps ∧
    ∃ slot, ∃ side : KernelSide κ, ∃ reports,
      (session.target caps placement).lastSlot? placement.point = some slot ∧
      KernelSide.giveUpSlot caps placement.thread ⟨session.kernel, session.legacyValue⟩
        slot.handle = (.error error, side, reports) ∧
      after.kernel = side.kernel ∧ after.legacyValue = side.legacyValue ∧
      after.notices = session.notices ++ reports := by
  have outcome := uninstalls caps session placement
  rw [refused] at outcome
  cases outcome with
  | @refused points _ table side reports notices there present removed told =>
      rw [← tableOf_of_get? there caps] at present removed
      cases removed with
      | absent missing => exact absurd missing present
      | @refused index slot _ _ found held deregistered _ last =>
          have puts := session.puts_withTable caps placement (session.target caps placement) side
          refine ⟨(tableOf_congr rfl caps).trans puts.unchanged, slot, side, reports,
            SlotTable.lastSlot?_of_last found held last, deregistered, rfl, rfl, told⟩

/-- A thread is passed over because its table does not hold the point. -/
theorem uninstall_false (passed : uninstall caps session placement = (.ok false, after)) :
    after = session ∧ (session.target caps placement).find? placement.point = none := by
  have outcome := uninstalls caps session placement
  rw [passed] at outcome
  cases outcome with
  | absent missing =>
      refine ⟨rfl, ?_⟩
      unfold target tableOf pointsOf
      cases there : session.sets.get? placement.thread with
      | some points => exact missing points there
      | none =>
          rw [SlotTable.find?_eq_none_iff]
          intro index slot found
          cases bank : placement.point.kind.bank <;> rw [bank] at found <;>
            rw [SlotTable.get?_empty found] <;> exact nofun

/-- A point that is given up, or passed over, is dropped where it is held. -/
theorem tableOf_of_uninstall {found : Bool}
    (given : uninstall caps session placement = (.ok found, after)) (thread : ThreadId)
    (bank : RegisterBank) :
    after.tableOf caps thread bank =
      (pointsOn thread [placement]).foldl (SlotTable.dropFrom bank)
        (session.tableOf caps thread bank) := by
  cases found with
  | true =>
      obtain ⟨_, table, _, _, removed, _, _, _, puts⟩ := uninstall_true given
      refine puts.tableOf_foldl (fun same => ?_) fun other _ => if_neg other
      exact (if_pos same).trans removed.eq_drop.symm
  | false =>
      obtain ⟨rfl, missing⟩ := uninstall_false given
      refine (Puts.refl after caps placement).tableOf_foldl (fun same => ?_)
        fun other _ => if_neg other
      exact (if_pos same).trans (congrArg Prod.snd (SlotTable.drop_of_absent missing))

end Placing

section Rooms

variable {session : Session κ} {caps : Capabilities}

theorem tableOf_checkRoom (session : Session κ) (caps : Capabilities) (bank : RegisterBank)
    (points : List EncodedPoint) (threads : List ThreadId) :
    tableOf { session with sets := (checkRoom caps bank points threads session.sets).2 } caps =
      session.tableOf caps := by
  induction threads generalizing session with
  | nil => rfl
  | cons thread rest ih =>
      have made := tableOf_ensure session caps thread
      unfold checkRoom
      dsimp only
      split
      · exact made
      · exact (ih { session with sets := session.sets.ensure thread caps }).trans made

def TablesKept (session : Session κ) (caps : Capabilities) : Prop :=
  ∀ thread bank, (session.tableOf caps thread bank).IsKept bank

theorem Sound.tablesKept (sound : session.Sound) (caps : Capabilities) : session.TablesKept caps :=
  fun thread bank => sound.kept_pointsOf caps thread bank

theorem TablesKept.congr {after : Session κ} (kept : session.TablesKept caps)
    (same : after.tableOf caps = session.tableOf caps) : after.TablesKept caps :=
  fun thread bank => same ▸ kept thread bank

theorem TablesKept.puts {after : Session κ} {placement : Placement} {table : SlotTable}
    (kept : session.TablesKept caps) (puts : session.Puts caps placement table after)
    (tableKept : table.IsKept placement.point.kind.bank) : after.TablesKept caps := by
  intro thread bank
  by_cases here : thread = placement.thread ∧ bank = placement.point.kind.bank
  · obtain ⟨rfl, rfl⟩ := here
    exact puts.here ▸ tableKept
  · exact puts.elsewhere thread bank here ▸ kept thread bank

variable [Kernel κ] {after : Session κ} {placement : Placement}

theorem TablesKept.install (kept : session.TablesKept caps)
    (installed : install caps session placement = (.ok (), after)) : after.TablesKept caps := by
  obtain ⟨_, _, _, _, _, inserted, _, _, _, puts⟩ := install_ok installed
  exact kept.puts puts (inserted.isKept (kept _ _) rfl)

theorem TablesKept.uninstall (kept : session.TablesKept caps) {found : Bool}
    (given : uninstall caps session placement = (.ok found, after)) : after.TablesKept caps := by
  cases found with
  | true =>
      obtain ⟨_, _, _, _, removed, _, _, _, puts⟩ := uninstall_true given
      exact kept.puts puts (removed.isKept (kept _ _))
  | false => exact (uninstall_false given).1 ▸ kept

/-- Dropping a point that was just installed leads back. -/
theorem TablesKept.drop_install (kept : session.TablesKept caps)
    (installed : Session.install caps session placement = (.ok (), after)) (thread : ThreadId)
    (bank : RegisterBank) :
    (pointsOn thread [placement]).foldl (SlotTable.dropFrom bank)
      (after.tableOf caps thread bank) = session.tableOf caps thread bank := by
  obtain ⟨_, _, _, _, _, inserted, _, _, _, puts⟩ := install_ok installed
  refine (puts.symm.tableOf_foldl (fun same => ?_) fun other _ => if_neg other).symm
  refine (if_pos same).trans ?_
  unfold target
  rw [puts.here]
  exact inserted.drop_eq (kept _ _)

end Rooms

end DebugRegisters.Session
