import DebugRegisters.Proofs.SlotTable.Contents
import DebugRegisters.Session.Change
import DebugRegisters.ThreadPoints.Lemmas

/-!
# What placing a point changes

Taking and giving up a slot on one thread, told apart by what the kernel and the
slot table answer. Neither changes the threads, the restriction or the set of
another thread, and a set stays under the thread it was found under.
-/

set_option autoImplicit false

namespace DebugRegisters.Session

variable {κ : Type}

structure SameProcess (session after : Session κ) : Prop where
  settings : after.settings = session.settings
  capabilities? : after.capabilities? = session.capabilities?
  restriction : after.restriction = session.restriction
  leader : after.leader = session.leader
  threads : after.threads = session.threads

theorem SameProcess.refl (session : Session κ) : session.SameProcess session :=
  ⟨rfl, rfl, rfl, rfl, rfl⟩

theorem SameProcess.trans {session middle after : Session κ} (first : session.SameProcess middle)
    (second : middle.SameProcess after) : session.SameProcess after where
  settings := second.settings.trans first.settings
  capabilities? := second.capabilities?.trans first.capabilities?
  restriction := second.restriction.trans first.restriction
  leader := second.leader.trans first.leader
  threads := second.threads.trans first.threads

def withTable (session : Session κ) (caps : Capabilities) (placement : Placement)
    (table : SlotTable) (side : KernelSide κ) : Session κ :=
  { session with
    kernel := side.kernel
    legacyValue := side.legacyValue
    sets := (session.sets.ensure placement.thread caps).update placement.thread fun points =>
      points.setTable placement.point.kind.bank table }

def markSlot (session : Session κ) (placement : Placement) (index : Nat) : Session κ :=
  { session with
    sets := session.sets.update placement.thread fun points =>
      points.markDirty placement.point.kind.bank index }

def pointsOf (session : Session κ) (caps : Capabilities) (thread : ThreadId) : ThreadPoints :=
  (session.sets.get? thread).getD (.empty thread caps)

section View

variable (session : Session κ) (caps : Capabilities) (placement : Placement) (table : SlotTable)
  (side : KernelSide κ)

@[simp] theorem get?_withTable_self :
    (session.withTable caps placement table side).sets.get? placement.thread =
      some ((session.pointsOf caps placement.thread).setTable placement.point.kind.bank table) := by
  unfold withTable
  rw [ThreadSets.get?_update_self fun _ => ThreadPoints.thread_setTable _ _ _,
    ThreadSets.get?_ensure_self]
  rfl

@[simp] theorem get?_withTable_of_ne {other : ThreadId} (different : other ≠ placement.thread) :
    (session.withTable caps placement table side).sets.get? other = session.sets.get? other := by
  unfold withTable
  rw [ThreadSets.get?_update_of_ne (fun _ => ThreadPoints.thread_setTable _ _ _) _ different,
    ThreadSets.get?_ensure_of_ne _ _ different]

@[simp] theorem get?_markSlot_self (index : Nat) :
    (session.markSlot placement index).sets.get? placement.thread =
      (session.sets.get? placement.thread).map fun points =>
        points.markDirty placement.point.kind.bank index :=
  ThreadSets.get?_update_self (fun _ => ThreadPoints.thread_markDirty _ _ _) _ _

@[simp] theorem get?_markSlot_of_ne {other : ThreadId} (different : other ≠ placement.thread)
    (index : Nat) :
    (session.markSlot placement index).sets.get? other = session.sets.get? other :=
  ThreadSets.get?_update_of_ne (fun _ => ThreadPoints.thread_markDirty _ _ _) _ different

end View

variable [Kernel κ]

inductive Installs (caps : Capabilities) (session : Session κ) (placement : Placement) :
    Outcome κ Unit → Prop where
  | running {cause : KernelError} {kernel : κ}
      (paused : Kernel.pause session.kernel placement.thread = (.error cause, kernel)) :
      Installs caps session placement
        (.error (.kernel .pause placement.thread cause), { session with kernel })
  | refused {kernel : κ} {error : PointError} {table : SlotTable} {side : KernelSide κ}
      (paused : Kernel.pause session.kernel placement.thread = (.ok (), kernel))
      (inserted : ((session.pointsOf caps placement.thread).table placement.point.kind.bank).Inserts
        placement.point ⟨kernel, session.legacyValue⟩ (KernelSide.takeSlot caps placement.thread)
        (.error error, table, side)) :
      Installs caps session placement (.error error, session.withTable caps placement table side)
  | held {kernel : κ} {insertion : Insertion} {table : SlotTable} {side : KernelSide κ}
      (notices : List Notice)
      (paused : Kernel.pause session.kernel placement.thread = (.ok (), kernel))
      (inserted : ((session.pointsOf caps placement.thread).table placement.point.kind.bank).Inserts
        placement.point ⟨kernel, session.legacyValue⟩ (KernelSide.takeSlot caps placement.thread)
        (.ok insertion, table, side))
      (settled : insertion.isFresh = false ∨ caps.interface ≠ .registerArray)
      (told : notices =
        session.notices ++ [.slotHolds placement.thread placement.point insertion]) :
      Installs caps session placement
        (.ok (), { session.withTable caps placement table side with notices })
  | marked {kernel : κ} {insertion : Insertion} {table : SlotTable} {side : KernelSide κ}
      (notices : List Notice)
      (paused : Kernel.pause session.kernel placement.thread = (.ok (), kernel))
      (inserted : ((session.pointsOf caps placement.thread).table placement.point.kind.bank).Inserts
        placement.point ⟨kernel, session.legacyValue⟩ (KernelSide.takeSlot caps placement.thread)
        (.ok insertion, table, side))
      (arrays : caps.interface = .registerArray)
      (told : notices =
        session.notices ++ [.slotHolds placement.thread placement.point insertion]) :
      Installs caps session placement
        (.ok (),
          { (session.withTable caps placement table side).markSlot placement insertion.index with
            notices })

theorem installs (caps : Capabilities) (session : Session κ) (placement : Placement) :
    Installs caps session placement (install caps session placement) := by
  obtain ⟨thread, point⟩ := placement
  unfold install
  cases paused : Kernel.pause session.kernel thread with
  | mk answer kernel =>
      cases answer with
      | error cause => simpa only [paused] using Installs.running paused
      | ok =>
          have found : ((session.sets.ensure thread caps).get? thread).getD (.empty thread caps) =
              session.pointsOf caps thread := by
            rw [ThreadSets.get?_ensure_self, Option.getD_some]
            rfl
          have inserted := SlotTable.inserts
            ((session.pointsOf caps thread).table point.kind.bank) point
            (KernelSide.mk kernel session.legacyValue) (KernelSide.takeSlot caps thread)
          cases outcome : ((session.pointsOf caps thread).table point.kind.bank).insertWith point
            (KernelSide.mk kernel session.legacyValue) (KernelSide.takeSlot caps thread) with
          | mk result rest =>
              obtain ⟨table, side⟩ := rest
              rw [outcome] at inserted
              simp only [paused, found, outcome]
              cases result with
              | error error =>
                  exact @Installs.refused _ _ caps session ⟨thread, point⟩ _ _ _ _ paused inserted
              | ok insertion =>
                  by_cases fresh : (insertion.isFresh && caps.interface == .registerArray) = true
                  · simp only [fresh, if_true]
                    simp only [Bool.and_eq_true, beq_iff_eq] at fresh
                    exact @Installs.marked _ _ caps session ⟨thread, point⟩ _ _ _ _ _ paused
                      inserted fresh.2 rfl
                  · simp only [fresh]
                    simp only [Bool.and_eq_true, beq_iff_eq, not_and_or, Bool.not_eq_true] at fresh
                    exact @Installs.held _ _ caps session ⟨thread, point⟩ _ _ _ _ _ paused inserted
                      fresh rfl

def giveUp (caps : Capabilities) (thread : ThreadId) (state : KernelSide κ × List Notice)
    (handle : Option SlotHandle) : Except PointError Unit × KernelSide κ × List Notice :=
  KernelSide.giveUpSlot caps thread state.1 handle

inductive Uninstalls (caps : Capabilities) (session : Session κ) (placement : Placement) :
    Outcome κ Bool → Prop where
  | absent
      (missing : ∀ points, session.sets.get? placement.thread = some points →
        (points.table placement.point.kind.bank).find? placement.point = none) :
      Uninstalls caps session placement (.ok false, session)
  | refused {points : ThreadPoints} {error : PointError} {table : SlotTable} {side : KernelSide κ}
      {reports : List Notice} (notices : List Notice)
      (there : session.sets.get? placement.thread = some points)
      (present : (points.table placement.point.kind.bank).find? placement.point ≠ none)
      (removed : (points.table placement.point.kind.bank).Removes placement.point
        (⟨session.kernel, session.legacyValue⟩, []) (giveUp caps placement.thread)
        (.error error, table, side, reports))
      (told : notices = session.notices ++ reports) :
      Uninstalls caps session placement
        (.error error, { session.withTable caps placement table side with notices })
  | dropped {points : ThreadPoints} {removal : Removal} {table : SlotTable} {side : KernelSide κ}
      {reports : List Notice} (notices : List Notice)
      (there : session.sets.get? placement.thread = some points)
      (removed : (points.table placement.point.kind.bank).Removes placement.point
        (⟨session.kernel, session.legacyValue⟩, []) (giveUp caps placement.thread)
        (.ok removal, table, side, reports))
      (settled : removal.isFreed = false ∨ caps.interface ≠ .registerArray)
      (told : notices = session.notices ++ reports ++
        [.slotReleased placement.thread placement.point removal]) :
      Uninstalls caps session placement
        (.ok true, { session.withTable caps placement table side with notices })
  | marked {points : ThreadPoints} {removal : Removal} {table : SlotTable} {side : KernelSide κ}
      {reports : List Notice} (notices : List Notice)
      (there : session.sets.get? placement.thread = some points)
      (removed : (points.table placement.point.kind.bank).Removes placement.point
        (⟨session.kernel, session.legacyValue⟩, []) (giveUp caps placement.thread)
        (.ok removal, table, side, reports))
      (arrays : caps.interface = .registerArray)
      (told : notices = session.notices ++ reports ++
        [.slotReleased placement.thread placement.point removal]) :
      Uninstalls caps session placement
        (.ok true,
          { (session.withTable caps placement table side).markSlot placement removal.index with
            notices })

theorem uninstalls (caps : Capabilities) (session : Session κ) (placement : Placement) :
    Uninstalls caps session placement (uninstall caps session placement) := by
  obtain ⟨thread, point⟩ := placement
  unfold uninstall
  cases there : session.sets.get? thread with
  | none =>
      simp only [there]
      refine @Uninstalls.absent _ _ caps session ⟨thread, point⟩ fun points found => ?_
      rw [there] at found
      cases found
  | some points =>
      by_cases missing : ((points.table point.kind.bank).find? point).isNone = true
      · simp only [there, missing, if_true]
        refine @Uninstalls.absent _ _ caps session ⟨thread, point⟩ fun other found => ?_
        rw [there] at found
        cases found
        simpa using missing
      · have same : session.sets.ensure thread caps = session.sets := by
          simp [ThreadSets.ensure, there]
        have removed := SlotTable.removes (points.table point.kind.bank) point
          (KernelSide.mk session.kernel session.legacyValue, ([] : List Notice))
          (giveUp caps thread)
        simp only [there, missing, Bool.false_eq_true, if_false]
        generalize outcome : (points.table point.kind.bank).removeWith point
          (KernelSide.mk session.kernel session.legacyValue, ([] : List Notice)) _ = reply
        cases reply with
        | mk result rest =>
            obtain ⟨table, side, reports⟩ := rest
            replace removed := outcome ▸ removed
            cases result with
            | error error =>
                have present : (points.table point.kind.bank).find? point ≠ none := by
                  simpa using missing
                have refused := @Uninstalls.refused _ _ caps session ⟨thread, point⟩ _ _ _ _ _
                  (session.notices ++ reports) there present removed rfl
                simpa only [withTable, same] using refused
            | ok removal =>
                by_cases freed : (removal.isFreed && caps.interface == .registerArray) = true
                · simp only [freed, if_true]
                  simp only [Bool.and_eq_true, beq_iff_eq] at freed
                  have marked := @Uninstalls.marked _ _ caps session ⟨thread, point⟩ _ _ _ _ _
                    (session.notices ++ reports ++ [.slotReleased thread point removal]) there
                    removed freed.2 rfl
                  simpa only [withTable, markSlot, same, notify] using marked
                · simp only [freed, Bool.false_eq_true, if_false]
                  simp only [Bool.and_eq_true, beq_iff_eq, not_and_or, Bool.not_eq_true] at freed
                  have dropped := @Uninstalls.dropped _ _ caps session ⟨thread, point⟩ _ _ _ _ _
                    (session.notices ++ reports ++ [.slotReleased thread point removal]) there
                    removed freed rfl
                  simpa only [withTable, same, notify] using dropped

theorem install_sameProcess (caps : Capabilities) (session : Session κ) (placement : Placement) :
    session.SameProcess (install caps session placement).2 := by
  have installed := installs caps session placement
  generalize install caps session placement = outcome at installed
  cases installed <;> exact ⟨rfl, rfl, rfl, rfl, rfl⟩

theorem uninstall_sameProcess (caps : Capabilities) (session : Session κ) (placement : Placement) :
    session.SameProcess (uninstall caps session placement).2 := by
  have uninstalled := uninstalls caps session placement
  generalize uninstall caps session placement = outcome at uninstalled
  cases uninstalled <;> exact ⟨rfl, rfl, rfl, rfl, rfl⟩

end DebugRegisters.Session
