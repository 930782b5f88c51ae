import DebugRegisters.Proofs.Session.Accounting.Held
import DebugRegisters.Proofs.SlotTable.Registers

/-!
# What a change adds and takes away

A change of points is made on every tracked thread or on none. This rests on one
thing beside the tables: that giving a slot up does not fail. Where that can be
relied on, a change that is broken off is undone completely.
-/

set_option autoImplicit false

namespace DebugRegisters.Session

variable {κ : Type} [Kernel κ]

theorem install_sound {session : Session κ} (caps : Capabilities) {placement : Placement}
    (sound : session.Sound) (tracked : placement.thread ∈ session.threads) :
    (install caps session placement).2.Sound := by
  have kept := sound.kept_pointsOf caps placement.thread placement.point.kind.bank
  have installed := installs caps session placement
  generalize install caps session placement = outcome at installed
  cases installed with
  | running paused => exact sound.congr rfl rfl
  | refused paused inserted => exact sound.withTable caps tracked (inserted.isKept kept rfl) _
  | @held _ _ _ side notices paused inserted settled =>
      have taken := sound.withTable caps tracked (inserted.isKept kept rfl) side
      exact taken.congr rfl rfl
  | @marked _ insertion _ side notices paused inserted arrays =>
      have taken := sound.withTable caps tracked (inserted.isKept kept rfl) side
      exact (taken.markSlot placement insertion.index).congr rfl rfl

theorem uninstall_sound {session : Session κ} (caps : Capabilities) {placement : Placement}
    (sound : session.Sound) (tracked : placement.thread ∈ session.threads) :
    (uninstall caps session placement).2.Sound := by
  have uninstalled := uninstalls caps session placement
  generalize uninstall caps session placement = outcome at uninstalled
  cases uninstalled with
  | absent missing => exact sound
  | @refused _ _ _ side _ notices there present removed =>
      have kept := removed.isKept (sound.kept.get? there _)
      exact (sound.withTable caps tracked kept side).congr rfl rfl
  | @dropped _ _ _ side _ notices there removed settled =>
      have kept := removed.isKept (sound.kept.get? there _)
      exact (sound.withTable caps tracked kept side).congr rfl rfl
  | @marked _ removal _ side _ notices there removed arrays =>
      have kept := removed.isKept (sound.kept.get? there _)
      have given := sound.withTable caps tracked kept side
      exact (given.markSlot placement removal.index).congr rfl rfl

theorem keptByChanges_sound (caps : Capabilities) :
    KeptByChanges caps fun session : Session κ => session.Sound where
  quiet sound _ := sound.congr rfl rfl
  ensure sound _ tracked := sound.ensure tracked caps
  install sound _ tracked := install_sound caps sound tracked
  uninstall sound _ tracked := uninstall_sound caps sound tracked

section Placing

variable {session : Session κ} {caps : Capabilities} {placement : Placement}

omit [Kernel κ] in
def Gains (session : Session κ) (placement : Placement) (after : Session κ) : Prop :=
  after.held placement.thread = placement.point ::ₘ session.held placement.thread ∧
    ∀ other, other ≠ placement.thread → after.held other = session.held other

omit [Kernel κ] in
theorem held_withTable_of_ne (table : SlotTable) (side : KernelSide κ) {other : ThreadId}
    (different : other ≠ placement.thread) :
    (session.withTable caps placement table side).held other = session.held other := by
  simp only [held, get?_withTable_of_ne _ _ _ _ _ different]

omit [Kernel κ] in
theorem held_withTable_self (table : SlotTable) (side : KernelSide κ) :
    (session.withTable caps placement table side).held placement.thread =
      ((session.pointsOf caps placement.thread).setTable placement.point.kind.bank
        table).contents :=
  held_of_get? (get?_withTable_self _ _ _ _ _)

omit [Kernel κ] in
theorem held_markSlot (session : Session κ) (placement : Placement) (index : Nat) :
    (session.markSlot placement index).held = session.held :=
  held_update (fun points => ThreadPoints.thread_markDirty points _ index)
    (fun points => by simp only [ThreadPoints.contents, ThreadPoints.table_markDirty]) session
    placement.thread

omit [Kernel κ] in
theorem gains_withTable (side : KernelSide κ) {table : SlotTable}
    (gained : table.contents = placement.point ::ₘ
      ((session.pointsOf caps placement.thread).table placement.point.kind.bank).contents) :
    session.Gains placement (session.withTable caps placement table side) := by
  refine ⟨?_, fun other different => held_withTable_of_ne table side different⟩
  rw [held_withTable_self, ThreadPoints.contents_setTable_cons gained, ← held_eq]

omit [Kernel κ] in
theorem held_withTable_same (side : KernelSide κ) {table : SlotTable}
    (same : table.contents =
      ((session.pointsOf caps placement.thread).table placement.point.kind.bank).contents) :
    (session.withTable caps placement table side).held = session.held := by
  funext other
  by_cases here : other = placement.thread
  · subst here
    rw [held_withTable_self, ThreadPoints.contents_setTable_same same, ← held_eq]
  · exact held_withTable_of_ne table side here

theorem gains_of_install {after : Session κ}
    (installed : install caps session placement = (.ok (), after)) :
    session.Gains placement after := by
  have outcome := installs caps session placement
  rw [installed] at outcome
  cases outcome with
  | @held _ _ _ side notices paused inserted settled =>
      exact gains_withTable side inserted.contents
  | @marked _ insertion table side notices paused inserted arrays =>
      have gained := gains_withTable side inserted.contents
      have marked := held_markSlot (session.withTable caps placement table side) placement
        insertion.index
      unfold Gains at gained ⊢
      rwa [← marked] at gained

theorem held_of_install_error {error : PointError} {after : Session κ}
    (refused : install caps session placement = (.error error, after)) :
    after.held = session.held := by
  have outcome := installs caps session placement
  rw [refused] at outcome
  cases outcome with
  | running paused => rfl
  | @refused _ _ _ side paused inserted =>
      exact held_withTable_same side (by rw [inserted.unchanged])

omit [Kernel κ] in
theorem pointsOf_of_get? {points : ThreadPoints} {thread : ThreadId}
    (there : session.sets.get? thread = some points) : session.pointsOf caps thread = points := by
  rw [pointsOf, there, Option.getD_some]

theorem gains_of_uninstall {after : Session κ} (sound : session.Sound)
    (uninstalled : uninstall caps session placement = (.ok true, after)) :
    after.Gains placement session := by
  have outcome := uninstalls caps session placement
  rw [uninstalled] at outcome
  have loses : ∀ {points : ThreadPoints} {table : SlotTable} (side : KernelSide κ),
      session.sets.get? placement.thread = some points →
      (points.table placement.point.kind.bank).contents = placement.point ::ₘ table.contents →
      (session.withTable caps placement table side).Gains placement session := by
    intro points table side there lost
    refine ⟨?_, fun other different => (held_withTable_of_ne table side different).symm⟩
    have back : (((session.pointsOf caps placement.thread).setTable placement.point.kind.bank
        table).setTable placement.point.kind.bank (points.table placement.point.kind.bank)).contents =
        placement.point ::ₘ ((session.pointsOf caps placement.thread).setTable
          placement.point.kind.bank table).contents :=
      ThreadPoints.contents_setTable_cons (by rw [lost, ThreadPoints.table_setTable_self])
    rw [held_withTable_self, ← back, ThreadPoints.setTable_setTable, held_of_get? there,
      pointsOf_of_get? there]
    exact (ThreadPoints.contents_setTable_same rfl).symm
  cases outcome with
  | @dropped _ _ _ side _ notices there removed settled =>
      exact loses side there (removed.contents (sound.kept.get? there _))
  | @marked _ removal table side _ notices there removed arrays =>
      have lost := loses side there (removed.contents (sound.kept.get? there _))
      have marked := held_markSlot (session.withTable caps placement table side) placement
        removal.index
      unfold Gains at lost ⊢
      rwa [← marked] at lost

/-- A thread is passed over only if it does not hold the point. -/
theorem not_mem_held_of_uninstall {after : Session κ} (sound : session.Sound)
    (passed : uninstall caps session placement = (.ok false, after)) :
    after = session ∧ placement.point ∉ session.held placement.thread := by
  have outcome := uninstalls caps session placement
  rw [passed] at outcome
  cases outcome with
  | absent missing =>
      refine ⟨rfl, fun member => ?_⟩
      unfold held at member
      cases there : session.sets.get? placement.thread with
      | none =>
          rw [there] at member
          exact absurd member (Multiset.notMem_zero _)
      | some points =>
          rw [there] at member
          have found := (ThreadPoints.find?_isSome_iff (sound.kept.get? there)).mpr member
          rw [missing points there] at found
          cases found

end Placing

end DebugRegisters.Session
