import DebugRegisters.Proofs.Session.Tables
import DebugRegisters.Proofs.SlotTable.Undoing

/-!
# Changes that are broken off

An insertion that fails part of the way gives up what it installed, the latest
first. What was installed is a chain of sessions, one for each point, and giving
up goes back along it. So a relation between sessions that survives one step back
holds at the end between the session before the insertion and the one after it.
-/

set_option autoImplicit false

namespace DebugRegisters.Session

variable {κ : Type} [Kernel κ] {caps : Capabilities} {base session after : Session κ}
  {done placements : List Placement} {error : PointError}

/-- The placements in `done`, the latest first, lead from `base` to a session. -/
inductive Installed (caps : Capabilities) (base : Session κ) : Session κ → List Placement → Prop where
  | none : Installed caps base base []
  | more {session after : Session κ} {placement : Placement} {done : List Placement}
      (earlier : Installed caps base session done)
      (installed : install caps session placement = (.ok (), after)) :
      Installed caps base after (placement :: done)

theorem Installed.keeps {holds : Session κ → Prop}
    (step : ∀ {session after : Session κ} {placement : Placement}, holds session →
      install caps session placement = (.ok (), after) → holds after)
    (chain : Installed caps base session done) (before : holds base) : holds session := by
  induction chain with
  | none => exact before
  | more _ installed ih => exact step ih installed

/-- An installation fails at one placement, with those before it done. -/
theorem Installed.breakOff (chain : Installed caps base session done)
    (failed : installAll caps done session placements = (.error error, after)) :
    ∃ middle placed placement broken, Installed caps base middle placed ∧
      install caps middle placement = (.error error, broken) ∧
      after = rollback caps
        (broken.notify (.insertFailed placement.point placement.thread error)) placed := by
  induction placements generalizing session done with
  | nil => cases failed
  | cons placement rest ih =>
      unfold installAll at failed
      split at failed
      · next middle installed => exact ih (chain.more installed) failed
      · next cause broken refused =>
          cases failed
          exact ⟨session, done, placement, broken, chain, refused, rfl⟩

inductive BrokenOff (caps : Capabilities) (session : Session κ) (error : PointError) :
    Session κ → Prop where
  | crowded {sets : ThreadSets} (same : tableOf { session with sets } caps = session.tableOf caps) :
      BrokenOff caps session error { session with sets }
  | undone {sets : ThreadSets} {middle broken : Session κ} {done : List Placement}
      {placement : Placement} (same : tableOf { session with sets } caps = session.tableOf caps)
      (chain : Installed caps { session with sets } middle done)
      (refused : install caps middle placement = (.error error, broken)) :
      BrokenOff caps session error
        (rollback caps (broken.notify (.insertFailed placement.point placement.thread error)) done)

theorem brokenOff_of_insertPoints {points : List EncodedPoint}
    (failed : insertPoints caps session points = (.error error, after)) :
    BrokenOff caps session error after := by
  unfold insertPoints at failed
  split at failed
  · cases failed
  · next first rest =>
      have checked := tableOf_checkRoom session caps first.kind.bank (first :: rest) session.threads
      split at failed
      · next refused =>
          rw [refused] at checked
          cases failed
          exact .crowded checked
      · next sets room =>
          rw [room] at checked
          split at failed
          · next final broken =>
              cases failed
              obtain ⟨middle, done, placement, last, chain, refused, rfl⟩ :=
                Installed.none.breakOff broken
              exact .undone checked chain refused
          · cases failed

/-- A point that is given up right after it was installed is found, and leaves
the tables as they were. Either the kernel had no part in both, or the slot that was
taken for it is given up. -/
theorem uninstall_installed {now final : Session κ} {placement : Placement} {found : Bool}
    (kept : session.TablesKept caps) (installed : install caps session placement = (.ok (), after))
    (tables : now.tableOf caps = after.tableOf caps)
    (given : uninstall caps now placement = (.ok found, final)) :
    final.tableOf caps = session.tableOf caps ∧
    ∃ kernel reports, ∃ side left : KernelSide κ,
      Kernel.pause session.kernel placement.thread = (.ok (), kernel) ∧
      after.kernel = side.kernel ∧ final.kernel = left.kernel ∧
      (side.kernel = kernel ∧ left.kernel = now.kernel ∨
        ∃ handle,
          KernelSide.takeSlot caps placement.thread ⟨kernel, session.legacyValue⟩ placement.point =
            (.ok handle, side) ∧
          (now.target caps placement).lastSlot? placement.point =
            some ⟨some placement.point, 1, handle⟩ ∧
          KernelSide.giveUpSlot caps placement.thread ⟨now.kernel, now.legacyValue⟩ handle =
            (.ok (), left, reports)) := by
  obtain ⟨kernel, insertion, table, side, paused, inserted, kernelSide, _, _, puts⟩ :=
    install_ok installed
  have here : now.target caps placement = table := by
    have same := congrFun (congrFun tables placement.thread) placement.point.kind.bank
    exact same.trans puts.here
  cases found with
  | false =>
      obtain ⟨_, missing⟩ := uninstall_false given
      rw [here, inserted.find?_isSome] at missing
      cases missing
  | true =>
      obtain ⟨_, restored, left, reports, removed, kernelNow, _, _, putsNow⟩ := uninstall_true given
      rw [here] at removed ⊢
      obtain ⟨rfl, sides⟩ := inserted.undone (kept _ _) removed
      refine ⟨?_, kernel, reports, side, left, paused, kernelSide, kernelNow, ?_⟩
      · funext thread bank
        by_cases same : thread = placement.thread ∧ bank = placement.point.kind.bank
        · obtain ⟨rfl, rfl⟩ := same
          exact putsNow.here
        · rw [putsNow.elsewhere thread bank same, tables, puts.elsewhere thread bank same]
      · rcases sides with ⟨rfl, apart⟩ | taken
        · cases apart
          exact .inl ⟨rfl, rfl⟩
        · exact .inr taken

def giveBack (caps : Capabilities) (session : Session κ) (placement : Placement) : Session κ :=
  match uninstall caps session placement with
  | (.ok _, session) => session
  | (.error cause, session) =>
      session.notify (.rollbackFailed placement.point placement.thread cause)

theorem rollback_cons (session : Session κ) (placement : Placement) (rest : List Placement) :
    rollback caps session (placement :: rest) =
      rollback caps (session.giveBack caps placement) rest := by
  conv_lhs => unfold rollback
  unfold giveBack
  cases uninstall caps session placement with
  | mk result after => cases result <;> rfl

/-- What survives one step back along the chain survives them all. -/
theorem Installed.rollback (like : Session κ → Session κ → Prop)
    (chain : Installed caps base session done)
    (back : ∀ {session after now : Session κ} {placement : Placement} {done : List Placement},
      Installed caps base session done → install caps session placement = (.ok (), after) →
      like after now → like session (now.giveBack caps placement))
    {now : Session κ} (start : like session now) : like base (Session.rollback caps now done) := by
  induction chain generalizing now with
  | none => exact start
  | more earlier installed ih =>
      rw [rollback_cons]
      exact ih (back earlier installed start)

end DebugRegisters.Session
