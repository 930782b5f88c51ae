import DebugRegisters.Proofs.Session.Accounting.Threads
import DebugRegisters.Proofs.Session.Undoing

/-!
# Changes that wait for a resume

Where the kernel has no part in taking and giving up slots, tables change by the
points alone. An insertion that succeeds adds the points to each thread's table
one after the other, one that fails changes no table, and a removal does not fail
once it has begun.
-/

set_option autoImplicit false

namespace DebugRegisters

namespace SlotTable

def addTo (bank : RegisterBank) (table : SlotTable) (point : EncodedPoint) : SlotTable :=
  if point.kind.bank = bank then (table.add point).2 else table

section Kernelless

variable {σ : Type} {table after : SlotTable} {point : EncodedPoint} {state side : σ}

theorem Inserts.eq_add {register : σ → EncodedPoint → Except PointError (Option SlotHandle) × σ}
    {insertion : Insertion} (settled : register state point = (.ok none, state))
    (inserted : table.Inserts point state register (.ok insertion, after, side)) :
    after = (table.add point).2 := by
  cases inserted with
  | shared found there holds => rw [add_of_held found]
  | taken absent free there isFree registered fits =>
      rw [settled] at registered
      cases registered
      rw [add_of_free absent (Option.filter_eq_some_iff.mpr ⟨free, decide_eq_true fits⟩)]

end Kernelless

end SlotTable

namespace Session

variable {κ : Type} [Kernel κ] {caps : Capabilities} {session after : Session κ}
  {placement : Placement} {done placements : List Placement}

theorem tableOf_install
    (deferred : caps.interface = .registerArray ∨ caps.interface = .unavailable)
    (installed : install caps session placement = (.ok (), after)) (thread : ThreadId)
    (bank : RegisterBank) :
    after.tableOf caps thread bank =
      (pointsOn thread [placement]).foldl (SlotTable.addTo bank)
        (session.tableOf caps thread bank) := by
  obtain ⟨_, _, table, _, _, inserted, _, _, _, puts⟩ := install_ok installed
  have added := inserted.eq_add (KernelSide.takeSlot_of_deferred deferred placement.thread _ _)
  refine puts.tableOf_foldl (fun same => ?_) fun other _ => if_neg other
  exact (if_pos same).trans added.symm

/-- Giving a point up succeeds, and drops it where it is held. -/
theorem tableOf_uninstall
    (deferred : caps.interface = .registerArray ∨ caps.interface = .unavailable)
    (session : Session κ) (placement : Placement) :
    ∃ found after, uninstall caps session placement = (.ok found, after) ∧
      ∀ thread bank, after.tableOf caps thread bank =
        (pointsOn thread [placement]).foldl (SlotTable.dropFrom bank)
          (session.tableOf caps thread bank) := by
  cases outcome : uninstall caps session placement with
  | mk result after =>
      cases result with
      | error error =>
          obtain ⟨_, slot, _, _, _, refused, _⟩ := uninstall_error outcome
          rw [KernelSide.giveUpSlot_of_deferred deferred] at refused
          cases refused
      | ok found => exact ⟨found, after, rfl, tableOf_of_uninstall outcome⟩

theorem tableOf_installAll
    (deferred : caps.interface = .registerArray ∨ caps.interface = .unavailable)
    (installed : installAll caps done session placements = (.ok (), after)) (thread : ThreadId)
    (bank : RegisterBank) :
    after.tableOf caps thread bank =
      (pointsOn thread placements).foldl (SlotTable.addTo bank)
        (session.tableOf caps thread bank) := by
  induction placements generalizing session done with
  | nil =>
      cases installed
      rfl
  | cons placement rest ih =>
      unfold installAll at installed
      split at installed
      · next middle first =>
          rw [ih installed, tableOf_install deferred first, ← List.foldl_append, ← pointsOn_append,
            List.singleton_append]
      · cases installed

theorem tableOf_uninstallAll
    (deferred : caps.interface = .registerArray ∨ caps.interface = .unavailable)
    (done : List Placement) (session : Session κ) (placements : List Placement) :
    ∃ after, uninstallAll caps done session placements = (.ok (), after) ∧
      ∀ thread bank, after.tableOf caps thread bank =
        (pointsOn thread placements).foldl (SlotTable.dropFrom bank)
          (session.tableOf caps thread bank) := by
  induction placements generalizing session done with
  | nil => exact ⟨session, rfl, fun _ _ => rfl⟩
  | cons placement rest ih =>
      obtain ⟨found, middle, given, first⟩ := tableOf_uninstall deferred session placement
      have tables : ∀ {after : Session κ}, (∀ thread bank, after.tableOf caps thread bank =
          (pointsOn thread rest).foldl (SlotTable.dropFrom bank) (middle.tableOf caps thread bank)) →
          ∀ thread bank, after.tableOf caps thread bank =
            (pointsOn thread (placement :: rest)).foldl (SlotTable.dropFrom bank)
              (session.tableOf caps thread bank) := by
        intro after later thread bank
        rw [later, first, ← List.foldl_append, ← pointsOn_append, List.singleton_append]
      unfold uninstallAll
      rw [given]
      cases found with
      | true =>
          obtain ⟨after, removed, later⟩ := ih (placement :: done) middle
          exact ⟨after, removed, tables later⟩
      | false =>
          obtain ⟨after, removed, later⟩ := ih done middle
          exact ⟨after, removed, tables later⟩

theorem tableOf_insertPoints
    (deferred : caps.interface = .registerArray ∨ caps.interface = .unavailable)
    (distinct : session.threads.Nodup) {points : List EncodedPoint}
    (inserted : insertPoints caps session points = (.ok (), after)) {thread : ThreadId}
    (tracked : thread ∈ session.threads) (bank : RegisterBank) :
    after.tableOf caps thread bank =
      points.foldl (SlotTable.addTo bank) (session.tableOf caps thread bank) := by
  unfold insertPoints at inserted
  split at inserted
  · cases inserted
    rfl
  · next first rest =>
      have checked := tableOf_checkRoom session caps first.kind.bank (first :: rest) session.threads
      split at inserted
      · cases inserted
      · next sets room =>
          rw [room] at checked
          split at inserted
          · cases inserted
          · next final installed =>
              cases inserted
              rw [tableOf_congr (sameTables_showRegisters final "insert").sets,
                tableOf_installAll deferred installed, checked]
              unfold placements
              rw [pointsOn_placements distinct, if_pos tracked]

/-- Points that are removed are dropped from the tables of every tracked thread,
and nothing can go wrong. -/
theorem tableOf_removePoints
    (deferred : caps.interface = .registerArray ∨ caps.interface = .unavailable)
    (distinct : session.threads.Nodup) (points : List EncodedPoint) :
    ∃ after, removePoints caps session points = (.ok (), after) ∧
      ∀ thread ∈ session.threads, ∀ bank, after.tableOf caps thread bank =
        points.foldl (SlotTable.dropFrom bank) (session.tableOf caps thread bank) := by
  obtain ⟨final, removed, tables⟩ :=
    tableOf_uninstallAll deferred [] session (session.placements points)
  refine ⟨final.showRegisters "remove", ?_, fun thread tracked bank => ?_⟩
  · unfold removePoints
    rw [removed]
  · rw [tableOf_congr (sameTables_showRegisters final "remove").sets, tables]
    unfold placements
    rw [pointsOn_placements distinct, if_pos tracked]

theorem BrokenOff.tableOf_eq
    (deferred : caps.interface = .registerArray ∨ caps.interface = .unavailable)
    (kept : session.TablesKept caps) {error : PointError}
    (broken : BrokenOff caps session error after) : after.tableOf caps = session.tableOf caps := by
  cases broken with
  | crowded same => exact same
  | @undone sets middle broken done placement same chain refused =>
      have begun : TablesKept { session with sets } caps := kept.congr same
      let told := broken.notify (.insertFailed placement.point placement.thread error)
      have start : told.tableOf caps = middle.tableOf caps :=
        (tableOf_congr rfl caps).trans (install_error refused).1
      refine (chain.rollback (fun session now => now.tableOf caps = session.tableOf caps)
        (fun {session after now placement done} earlier installed tables => ?_) start).trans same
      obtain ⟨found, final, given, _⟩ := tableOf_uninstall deferred now placement
      have returned := uninstall_installed (earlier.keeps TablesKept.install begun) installed tables given
      unfold giveBack
      rw [given]
      exact returned.1

end Session

end DebugRegisters
