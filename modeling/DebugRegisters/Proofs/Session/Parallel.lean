import DebugRegisters.Proofs.Session.Capabilities
import DebugRegisters.Proofs.Session.Preservation
import DebugRegisters.Proofs.ThreadPoints.Images

/-!
# Sessions side by side

Two sessions on kernels with register arrays can hold the same points but for a
change that keeps points apart. A placement on one and the changed placement on
the other come to the same answer, and the sessions stay side by side. So do
all operations that are made of placements, whether they succeed or are undone.
-/

set_option autoImplicit false

namespace DebugRegisters

def Placement.mapPoint (change : EncodedPoint → EncodedPoint) (placement : Placement) : Placement :=
  { placement with point := change placement.point }

namespace Session

/-- The sessions follow the same threads, their points differ by the change, and
only bank writes can fail. -/
structure Parallel (change : EncodedPoint → EncodedPoint) (among : EncodedPoint → Prop)
    (early late : Session SimulatedKernel) : Prop where
  threads : early.threads = late.threads
  images : early.sets.Images change among late.sets
  trustEarly : early.kernel.OnlyWritesFail
  trustLate : late.kernel.OnlyWritesFail

structure Agree {α : Type} (change : EncodedPoint → EncodedPoint) (among : EncodedPoint → Prop)
    (first second : Outcome SimulatedKernel α) : Prop where
  answers : first.1 = second.1
  parallel : first.2.Parallel change among second.2

variable {change : EncodedPoint → EncodedPoint} {among : EncodedPoint → Prop}
  {early late : Session SimulatedKernel}

/-- Neither reports nor calls matter, nor what is marked as changed. -/
theorem Parallel.quiet (parallel : early.Parallel change among late)
    {earlyNow lateNow : Session SimulatedKernel}
    (threads : earlyNow.threads = early.threads ∧ lateNow.threads = late.threads)
    (layout : earlyNow.sets.layout = early.sets.layout ∧ lateNow.sets.layout = late.sets.layout)
    (kernels : early.kernel.Follows earlyNow.kernel ∧ late.kernel.Follows lateNow.kernel) :
    earlyNow.Parallel change among lateNow where
  threads := by rw [threads.1, threads.2, parallel.threads]
  images := parallel.images.congr_layout layout.1 layout.2
  trustEarly := parallel.trustEarly.follows kernels.1
  trustLate := parallel.trustLate.follows kernels.2

theorem Parallel.notices (parallel : early.Parallel change among late) (first second : List Notice) :
    Parallel change among { early with notices := first } { late with notices := second } :=
  parallel.quiet ⟨rfl, rfl⟩ ⟨rfl, rfl⟩ ⟨.refl _, .refl _⟩

theorem Parallel.showRegisters (parallel : early.Parallel change among late)
    (operation : String) :
    (early.showRegisters operation).Parallel change among (late.showRegisters operation) := by
  unfold Session.showRegisters
  split <;> split
  · exact parallel.notices _ _
  · exact parallel.notices _ late.notices
  · exact parallel.notices early.notices _
  · exact parallel

theorem placements_map (parallel : early.Parallel change among late) (points : List EncodedPoint) :
    early.placements (points.map change) =
      (late.placements points).map (Placement.mapPoint change) := by
  unfold placements
  rw [parallel.threads, List.map_flatMap]
  simp only [List.map_map]
  rfl

theorem checkRoom_images (caps : Capabilities) (separates : Separates change among)
    {bank : RegisterBank} {points : List EncodedPoint}
    (members : ∀ point ∈ points, among point ∧ point.kind.bank = bank)
    {threads other : List ThreadId} (same : threads = other) {early late : ThreadSets}
    (images : early.Images change among late) :
    (checkRoom caps bank (points.map change) threads early).1 =
        (checkRoom caps bank points other late).1 ∧
      (checkRoom caps bank (points.map change) threads early).2.Images change among
        (checkRoom caps bank points other late).2 := by
  subst same
  induction threads generalizing early late with
  | nil => exact ⟨rfl, images⟩
  | cons thread rest ih =>
      have ensured := images.ensure thread caps
      have related := ensured.getD thread caps
      have accepted := SlotTable.canAccept_slotwise (separates.within bank) (related.tidy bank)
        members
      unfold checkRoom
      dsimp only
      rw [related.tables, accepted]
      split
      · exact ⟨rfl, ensured⟩
      · exact ih ensured

section Deferred

variable {caps : Capabilities}
  (deferred : caps.interface = .registerArray ∨ caps.interface = .unavailable)
  (separates : Separates change among)

include deferred separates

theorem install_agree (parallel : early.Parallel change among late) {placement : Placement}
    (member : among placement.point) :
    Agree change among (install caps early (placement.mapPoint change))
      (install caps late placement) := by
  obtain ⟨thread, point⟩ := placement
  have bank : (change point).kind.bank = point.kind.bank := by rw [separates.kind]
  have apart := separates.within point.kind.bank
  have ensured := parallel.images.ensure thread caps
  have related := ensured.getD thread caps
  have pausedEarly := parallel.trustEarly.pause_answer thread
  have pausedLate := parallel.trustLate.pause_answer thread
  have earlyKernel := (SimulatedKernel.pause_keeps early.kernel thread).toFollows
  have lateKernel := (SimulatedKernel.pause_keeps late.kernel thread).toFollows
  unfold install Placement.mapPoint
  dsimp only
  generalize Kernel.pause early.kernel thread = first at pausedEarly earlyKernel ⊢
  generalize Kernel.pause late.kernel thread = second at pausedLate lateKernel ⊢
  obtain ⟨answer, kernel⟩ := first
  obtain ⟨other, twin⟩ := second
  cases pausedEarly
  cases pausedLate
  have trustEarly := parallel.trustEarly.follows earlyKernel
  have trustLate := parallel.trustLate.follows lateKernel
  dsimp only
  rw [SlotTable.insertWith_eq_add (KernelSide.takeSlot_of_deferred deferred thread _ _),
    SlotTable.insertWith_eq_add (KernelSide.takeSlot_of_deferred deferred thread _ _), bank,
    related.tables, SlotTable.add_slotwise apart (related.tidy _) ⟨member, rfl⟩]
  have added := (related.tidy point.kind.bank).add ⟨member, rfl⟩
  dsimp only at added ⊢
  generalize ((((late.sets.ensure thread caps).get? thread).getD
    (.empty thread caps)).table point.kind.bank).add point = outcome at added ⊢
  obtain ⟨result, table⟩ := outcome
  have placed := ensured.setTable thread added
  cases result with
  | error error => exact ⟨rfl, parallel.threads, placed, trustEarly, trustLate⟩
  | ok insertion =>
      refine ⟨rfl, ?_⟩
      dsimp only
      split
      · have marked := placed.markDirty thread point.kind.bank insertion.index
        exact ⟨parallel.threads, marked, trustEarly, trustLate⟩
      · exact ⟨parallel.threads, placed, trustEarly, trustLate⟩

theorem uninstall_agree (parallel : early.Parallel change among late) {placement : Placement}
    (member : among placement.point) :
    Agree change among (uninstall caps early (placement.mapPoint change))
      (uninstall caps late placement) := by
  obtain ⟨thread, point⟩ := placement
  have bank : (change point).kind.bank = point.kind.bank := by rw [separates.kind]
  have apart := separates.within point.kind.bank
  unfold uninstall Placement.mapPoint
  dsimp only
  rcases parallel.images.get? thread with ⟨first, second⟩ | ⟨first, second, there, also, related⟩
  · simp only [first, second]
    exact ⟨rfl, parallel⟩
  · have found : (first.table point.kind.bank).find? (change point) =
        (second.table point.kind.bank).find? point := by
      rw [related.tables, SlotTable.find?_slotwise apart (related.tidy _) ⟨member, rfl⟩]
    simp only [there, also, bank, found]
    split
    · exact ⟨rfl, parallel⟩
    · rw [SlotTable.removeWith_eq_drop fun handle => ?_, SlotTable.removeWith_eq_drop fun handle => ?_,
        related.tables, SlotTable.drop_slotwise apart (related.tidy _) ⟨member, rfl⟩]
      · have dropped := (related.tidy point.kind.bank).drop point
        dsimp only at dropped ⊢
        generalize (second.table point.kind.bank).drop point = outcome at dropped ⊢
        obtain ⟨result, table⟩ := outcome
        have placed := parallel.images.setTable thread dropped
        cases result with
        | error error => exact ⟨rfl, parallel.threads, placed, parallel.trustEarly, parallel.trustLate⟩
        | ok removal =>
            refine ⟨rfl, ?_⟩
            dsimp only
            split
            · have marked := placed.markDirty thread point.kind.bank removal.index
              exact ⟨parallel.threads, marked, parallel.trustEarly, parallel.trustLate⟩
            · exact ⟨parallel.threads, placed, parallel.trustEarly, parallel.trustLate⟩
      · exact KernelSide.giveUpSlot_of_deferred deferred thread _ handle
      · exact KernelSide.giveUpSlot_of_deferred deferred thread _ handle

theorem rollback_parallel (parallel : early.Parallel change among late) {done : List Placement}
    (members : ∀ placement ∈ done, among placement.point) :
    (rollback caps early (done.map (Placement.mapPoint change))).Parallel change among
      (rollback caps late done) := by
  induction done generalizing early late with
  | nil => exact parallel
  | cons placement rest ih =>
      have later := fun other member => members other (List.mem_cons_of_mem placement member)
      obtain ⟨answers, after⟩ := uninstall_agree deferred separates parallel
        (members placement List.mem_cons_self)
      rw [List.map_cons]
      unfold rollback
      generalize uninstall caps early (placement.mapPoint change) = first at answers after ⊢
      generalize uninstall caps late placement = second at answers after ⊢
      obtain ⟨answer, earlyNow⟩ := first
      obtain ⟨other, lateNow⟩ := second
      cases answers
      cases answer with
      | ok => exact ih after later
      | error cause => exact ih (after.notices _ _) later

theorem restore_parallel (parallel : early.Parallel change among late) {done : List Placement}
    (members : ∀ placement ∈ done, among placement.point) :
    (restore caps early (done.map (Placement.mapPoint change))).Parallel change among
      (restore caps late done) := by
  induction done generalizing early late with
  | nil => exact parallel
  | cons placement rest ih =>
      have later := fun other member => members other (List.mem_cons_of_mem placement member)
      obtain ⟨answers, after⟩ := install_agree deferred separates parallel
        (members placement List.mem_cons_self)
      rw [List.map_cons]
      unfold restore
      generalize install caps early (placement.mapPoint change) = first at answers after ⊢
      generalize install caps late placement = second at answers after ⊢
      obtain ⟨answer, earlyNow⟩ := first
      obtain ⟨other, lateNow⟩ := second
      cases answers
      cases answer with
      | ok => exact ih after later
      | error cause => exact ih (after.notices _ _) later

theorem installAll_agree (parallel : early.Parallel change among late)
    {done placements : List Placement} (before : ∀ placement ∈ done, among placement.point)
    (members : ∀ placement ∈ placements, among placement.point) :
    Agree change among
      (installAll caps (done.map (Placement.mapPoint change)) early
        (placements.map (Placement.mapPoint change)))
      (installAll caps done late placements) := by
  induction placements generalizing early late done with
  | nil => exact ⟨rfl, parallel⟩
  | cons placement rest ih =>
      have here := members placement List.mem_cons_self
      have later := fun other member => members other (List.mem_cons_of_mem placement member)
      obtain ⟨answers, after⟩ := install_agree deferred separates parallel here
      rw [List.map_cons]
      unfold installAll
      generalize install caps early (placement.mapPoint change) = first at answers after ⊢
      generalize install caps late placement = second at answers after ⊢
      obtain ⟨answer, earlyNow⟩ := first
      obtain ⟨other, lateNow⟩ := second
      cases answers
      cases answer with
      | ok =>
          refine @ih earlyNow lateNow after (placement :: done) ?_ later
          exact List.forall_mem_cons.mpr ⟨here, before⟩
      | error cause => exact ⟨rfl, rollback_parallel deferred separates (after.notices _ _) before⟩

theorem uninstallAll_agree (parallel : early.Parallel change among late)
    {done placements : List Placement} (before : ∀ placement ∈ done, among placement.point)
    (members : ∀ placement ∈ placements, among placement.point) :
    Agree change among
      (uninstallAll caps (done.map (Placement.mapPoint change)) early
        (placements.map (Placement.mapPoint change)))
      (uninstallAll caps done late placements) := by
  induction placements generalizing early late done with
  | nil => exact ⟨rfl, parallel⟩
  | cons placement rest ih =>
      have here := members placement List.mem_cons_self
      have later := fun other member => members other (List.mem_cons_of_mem placement member)
      obtain ⟨answers, after⟩ := uninstall_agree deferred separates parallel here
      rw [List.map_cons]
      unfold uninstallAll
      generalize uninstall caps early (placement.mapPoint change) = first at answers after ⊢
      generalize uninstall caps late placement = second at answers after ⊢
      obtain ⟨answer, earlyNow⟩ := first
      obtain ⟨other, lateNow⟩ := second
      cases answers
      cases answer with
      | ok present =>
          cases present with
          | true =>
              refine @ih earlyNow lateNow after (placement :: done) ?_ later
              exact List.forall_mem_cons.mpr ⟨here, before⟩
          | false => exact ih after before later
      | error cause => exact ⟨rfl, restore_parallel deferred separates (after.notices _ _) before⟩

theorem insertPoints_agree (parallel : early.Parallel change among late) {bank : RegisterBank}
    {points : List EncodedPoint}
    (members : ∀ point ∈ points, among point ∧ point.kind.bank = bank) :
    Agree change among (insertPoints caps early (points.map change))
      (insertPoints caps late points) := by
  cases points with
  | nil => exact ⟨rfl, parallel⟩
  | cons first rest =>
      have here : first.kind.bank = bank := (members first List.mem_cons_self).2
      have there : (change first).kind.bank = bank := by rw [separates.kind, here]
      obtain ⟨answers, images⟩ := checkRoom_images caps separates members parallel.threads
        parallel.images
      rw [List.map_cons] at answers images ⊢
      unfold insertPoints
      dsimp only
      rw [here, there]
      generalize checkRoom caps bank (change first :: rest.map change) early.threads early.sets =
        checked at answers images ⊢
      generalize checkRoom caps bank (first :: rest) late.threads late.sets =
        other at answers images ⊢
      obtain ⟨answer, earlySets⟩ := checked
      obtain ⟨same, lateSets⟩ := other
      cases answers
      have roomy : Parallel change among { early with sets := earlySets }
          { late with sets := lateSets } :=
        ⟨parallel.threads, images, parallel.trustEarly, parallel.trustLate⟩
      cases answer with
      | error error => exact ⟨rfl, roomy⟩
      | ok =>
          have placed : ∀ placement ∈ late.placements (first :: rest), among placement.point :=
            fun placement member => (members _ (point_of_placements member)).1
          have installed := @installAll_agree _ _ _ _ _ deferred separates roomy [] _
            (fun _ none => by cases none) placed
          have mapped := placements_map parallel (first :: rest)
          rw [List.map_cons] at mapped
          rw [List.map_nil] at installed
          dsimp only
          rw [mapped]
          revert installed
          generalize installAll caps [] { early with sets := earlySets } _ = one,
            installAll caps [] { late with sets := lateSets } _ = two
          rintro ⟨answers, after⟩
          obtain ⟨answer, earlyNow⟩ := one
          obtain ⟨same, lateNow⟩ := two
          cases answers
          cases answer with
          | error error => exact ⟨rfl, after⟩
          | ok => exact ⟨rfl, after.showRegisters "insert"⟩

theorem removePoints_agree (parallel : early.Parallel change among late)
    {points : List EncodedPoint} (members : ∀ point ∈ points, among point) :
    Agree change among (removePoints caps early (points.map change))
      (removePoints caps late points) := by
  have placed : ∀ placement ∈ late.placements points, among placement.point :=
    fun placement member => members _ (point_of_placements member)
  have removed := @uninstallAll_agree _ _ _ _ _ deferred separates parallel [] _
    (fun _ none => by cases none) placed
  rw [List.map_nil] at removed
  unfold removePoints
  rw [placements_map parallel]
  revert removed
  generalize uninstallAll caps [] early _ = one, uninstallAll caps [] late _ = two
  rintro ⟨answers, after⟩
  obtain ⟨answer, earlyNow⟩ := one
  obtain ⟨same, lateNow⟩ := two
  cases answers
  cases answer with
  | error error => exact ⟨rfl, after⟩
  | ok => exact ⟨rfl, after.showRegisters "remove"⟩

end Deferred

end Session

end DebugRegisters
