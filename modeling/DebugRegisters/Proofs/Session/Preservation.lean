import DebugRegisters.Proofs.Session.Placement

/-!
# What changes preserve

Inserting and removing points is made of four steps: reporting, making a set for
a thread, taking a slot and giving one up. What each of these preserves holds
after every change, whether the change succeeds, is undone or is left half done.
-/

set_option autoImplicit false

namespace DebugRegisters.Session

variable {κ : Type}

def Tracked (session : Session κ) (placements : List Placement) : Prop :=
  ∀ placement ∈ placements, placement.thread ∈ session.threads

theorem tracked_nil (session : Session κ) : session.Tracked [] :=
  fun _ none => by cases none

theorem Tracked.rest {session : Session κ} {placement : Placement} {rest : List Placement}
    (tracked : session.Tracked (placement :: rest)) : session.Tracked rest :=
  fun other member => tracked other (List.mem_cons_of_mem _ member)

theorem Tracked.after {session after : Session κ} {placements : List Placement}
    (tracked : session.Tracked placements) (same : session.SameProcess after) :
    after.Tracked placements :=
  fun placement member => same.threads ▸ tracked placement member

theorem Tracked.push {session : Session κ} {placement : Placement} {done : List Placement}
    (tracked : session.Tracked done) (there : placement.thread ∈ session.threads) :
    session.Tracked (placement :: done) := by
  intro other member
  rcases List.mem_cons.mp member with rfl | earlier
  · exact there
  · exact tracked other earlier

theorem tracked_placements (session : Session κ) (points : List EncodedPoint) :
    session.Tracked (session.placements points) := by
  intro placement member
  obtain ⟨thread, there, placed⟩ := List.mem_flatMap.mp member
  obtain ⟨point, _, rfl⟩ := List.mem_map.mp placed
  exact there

theorem point_of_placements {session : Session κ} {points : List EncodedPoint}
    {placement : Placement} (member : placement ∈ session.placements points) :
    placement.point ∈ points := by
  obtain ⟨thread, _, placed⟩ := List.mem_flatMap.mp member
  obtain ⟨point, listed, rfl⟩ := List.mem_map.mp placed
  exact listed

variable [Kernel κ]

/-- A property of sessions that no step of a change breaks, as long as only
tracked threads are changed. -/
structure KeptByChanges (caps : Capabilities) (holds : Session κ → Prop) : Prop where
  quiet {session : Session κ} (kept : holds session) (reports : List Notice) :
    holds { session with notices := session.notices ++ reports }
  ensure {session : Session κ} (kept : holds session) {thread : ThreadId}
    (tracked : thread ∈ session.threads) :
    holds { session with sets := session.sets.ensure thread caps }
  install {session : Session κ} (kept : holds session) {placement : Placement}
    (tracked : placement.thread ∈ session.threads) : holds (install caps session placement).2
  uninstall {session : Session κ} (kept : holds session) {placement : Placement}
    (tracked : placement.thread ∈ session.threads) : holds (uninstall caps session placement).2

/-- The threads, the restriction and what is known of the kernel stay. -/
theorem keptByChanges_sameProcess (caps : Capabilities) (start : Session κ) :
    KeptByChanges caps start.SameProcess where
  quiet kept _ := kept.trans ⟨rfl, rfl, rfl, rfl, rfl⟩
  ensure kept _ _ := kept.trans ⟨rfl, rfl, rfl, rfl, rfl⟩
  install kept _ _ := kept.trans (install_sameProcess _ _ _)
  uninstall kept _ _ := kept.trans (uninstall_sameProcess _ _ _)

namespace KeptByChanges

variable {caps : Capabilities} {holds : Session κ → Prop} {session : Session κ}

theorem showRegisters (principle : KeptByChanges caps holds) (kept : holds session)
    (operation : String) : holds (session.showRegisters operation) := by
  unfold Session.showRegisters
  split
  · exact principle.quiet kept _
  · exact kept

theorem checkRoom (principle : KeptByChanges caps holds) (bank : RegisterBank)
    (points : List EncodedPoint) {threads : List ThreadId}
    (tracked : ∀ thread ∈ threads, thread ∈ session.threads) (kept : holds session) :
    holds { session with sets := (checkRoom caps bank points threads session.sets).2 } := by
  induction threads generalizing session with
  | nil => exact kept
  | cons thread rest ih =>
      have made := principle.ensure kept (tracked thread List.mem_cons_self)
      unfold Session.checkRoom
      dsimp only
      split
      · exact made
      · have later := fun other member => tracked other (List.mem_cons_of_mem thread member)
        exact @ih { session with sets := session.sets.ensure thread caps } later made

theorem rollback (principle : KeptByChanges caps holds) {done : List Placement}
    (tracked : session.Tracked done) (kept : holds session) :
    holds (rollback caps session done) := by
  induction done generalizing session with
  | nil => exact kept
  | cons placement rest ih =>
      have same := uninstall_sameProcess caps session placement
      have later := principle.uninstall kept (tracked placement List.mem_cons_self)
      unfold Session.rollback
      split <;> next outcome =>
        rw [outcome] at same later
        first
          | exact ih (tracked.rest.after same) later
          | exact ih (tracked.rest.after (same.trans ⟨rfl, rfl, rfl, rfl, rfl⟩))
              (principle.quiet later _)

theorem restore (principle : KeptByChanges caps holds) {done : List Placement}
    (tracked : session.Tracked done) (kept : holds session) :
    holds (restore caps session done) := by
  induction done generalizing session with
  | nil => exact kept
  | cons placement rest ih =>
      have same := install_sameProcess caps session placement
      have later := principle.install kept (tracked placement List.mem_cons_self)
      unfold Session.restore
      split <;> next outcome =>
        rw [outcome] at same later
        first
          | exact ih (tracked.rest.after same) later
          | exact ih (tracked.rest.after (same.trans ⟨rfl, rfl, rfl, rfl, rfl⟩))
              (principle.quiet later _)

theorem installAll (principle : KeptByChanges caps holds) {done placements : List Placement}
    (trackedDone : session.Tracked done) (tracked : session.Tracked placements)
    (kept : holds session) : holds (installAll caps done session placements).2 := by
  induction placements generalizing session done with
  | nil => exact kept
  | cons placement rest ih =>
      have there := tracked placement List.mem_cons_self
      have same := install_sameProcess caps session placement
      have later := principle.install kept there
      unfold Session.installAll
      split
      · next outcome =>
          rw [outcome] at same later
          exact ih ((trackedDone.push there).after same) (tracked.rest.after same) later
      · next outcome =>
          rw [outcome] at same later
          exact principle.rollback (trackedDone.after (same.trans ⟨rfl, rfl, rfl, rfl, rfl⟩))
            (principle.quiet later _)

theorem uninstallAll (principle : KeptByChanges caps holds) {done placements : List Placement}
    (trackedDone : session.Tracked done) (tracked : session.Tracked placements)
    (kept : holds session) : holds (uninstallAll caps done session placements).2 := by
  induction placements generalizing session done with
  | nil => exact kept
  | cons placement rest ih =>
      have there := tracked placement List.mem_cons_self
      have same := uninstall_sameProcess caps session placement
      have later := principle.uninstall kept there
      unfold Session.uninstallAll
      split
      · next outcome =>
          rw [outcome] at same later
          exact ih ((trackedDone.push there).after same) (tracked.rest.after same) later
      · next outcome =>
          rw [outcome] at same later
          exact ih (trackedDone.after same) (tracked.rest.after same) later
      · next outcome =>
          rw [outcome] at same later
          exact principle.restore (trackedDone.after (same.trans ⟨rfl, rfl, rfl, rfl, rfl⟩))
            (principle.quiet later _)

theorem insertPoints (principle : KeptByChanges caps holds) (points : List EncodedPoint)
    (kept : holds session) : holds (insertPoints caps session points).2 := by
  unfold Session.insertPoints
  split
  · exact kept
  · next first rest =>
      have checked := principle.checkRoom first.kind.bank (first :: rest)
        (fun _ member => member) kept
      split
      · next outcome =>
          rw [outcome] at checked
          exact checked
      · next sets outcome =>
          rw [outcome] at checked
          have tracked := tracked_placements { session with sets } (first :: rest)
          have installed := principle.installAll (tracked_nil _) tracked checked
          have same : session.placements (first :: rest) =
              Session.placements { session with sets } (first :: rest) := rfl
          rw [same]
          split
          · next outcome =>
              rw [outcome] at installed
              exact installed
          · next outcome =>
              rw [outcome] at installed
              exact principle.showRegisters installed _

theorem removePoints (principle : KeptByChanges caps holds) (points : List EncodedPoint)
    (kept : holds session) : holds (removePoints caps session points).2 := by
  have removed := principle.uninstallAll (tracked_nil session) (tracked_placements session points)
    kept
  unfold Session.removePoints
  split
  · next outcome =>
      rw [outcome] at removed
      exact removed
  · next outcome =>
      rw [outcome] at removed
      exact principle.showRegisters removed _

end KeptByChanges

section Operations

variable {holds : Session κ → Prop} {session : Session κ}

theorem insert_keeps (principle : KeptByChanges session.capabilities.1 holds)
    (kept : holds session.capabilities.2) (request : PointRequest) :
    holds (session.insert request).2 := by
  unfold insert
  dsimp only
  split
  · exact kept
  · exact principle.insertPoints _ (principle.quiet kept _)

theorem remove_keeps (principle : KeptByChanges session.capabilities.1 holds)
    (kept : holds session.capabilities.2) (request : PointRequest) :
    holds (session.remove request).2 := by
  unfold remove
  dsimp only
  split
  · exact kept
  · split
    · exact kept
    · split
      · exact principle.removePoints _ (principle.quiet kept _)
      · exact kept

theorem insertMasked_keeps (principle : KeptByChanges session.capabilities.1 holds)
    (kept : holds session.capabilities.2) (kind : PointKind) (address : Address) (mask : UInt64) :
    holds (session.insertMasked kind address mask).2 := by
  unfold insertMasked
  dsimp only
  split
  · exact kept
  · exact principle.insertPoints _ (principle.quiet kept _)

theorem removeMasked_keeps (principle : KeptByChanges session.capabilities.1 holds)
    (kept : holds session.capabilities.2) (kind : PointKind) (address : Address) (mask : UInt64) :
    holds (session.removeMasked kind address mask).2 := by
  unfold removeMasked
  dsimp only
  split
  · exact kept
  · split
    · exact principle.removePoints _ (principle.quiet kept _)
    · exact kept

end Operations

end DebugRegisters.Session
