import DebugRegisters.Proofs.Session.Accounting.Changes

/-!
# Changes on all threads

Installing a list of points adds it on every tracked thread or changes nothing,
and removing points that all threads hold takes them away everywhere. The proofs
follow the loops: what was done so far is what an undoing takes back.
-/

set_option autoImplicit false

namespace DebugRegisters.Session

variable {κ : Type} [Kernel κ]

structure Reliable (caps : Capabilities) (trusted : κ → Prop) : Prop where
  pause {kernel : κ} (trust : trusted kernel) (thread : ThreadId) :
    trusted (Kernel.pause kernel thread).2
  takeSlot {side : KernelSide κ} (trust : trusted side.kernel) (thread : ThreadId)
    (point : EncodedPoint) : trusted (KernelSide.takeSlot caps thread side point).2.kernel
  giveUpSlot {side : KernelSide κ} (trust : trusted side.kernel) (thread : ThreadId)
    (handle : Option SlotHandle) :
    (KernelSide.giveUpSlot caps thread side handle).1 = .ok () ∧
      trusted (KernelSide.giveUpSlot caps thread side handle).2.1.kernel

namespace Reliable

variable {caps : Capabilities} {trusted : κ → Prop} {session : Session κ}

theorem install (reliable : Reliable caps trusted) (trust : trusted session.kernel)
    (placement : Placement) : trusted (install caps session placement).2.kernel := by
  have paused := reliable.pause trust placement.thread
  have taken : ∀ (side : KernelSide κ) (point : EncodedPoint), trusted side.kernel →
      trusted (KernelSide.takeSlot caps placement.thread side point).2.kernel :=
    fun side point before => reliable.takeSlot before placement.thread point
  have installed := installs caps session placement
  generalize Session.install caps session placement = outcome at installed
  cases installed with
  | running answered =>
      rw [answered] at paused
      exact paused
  | refused answered inserted =>
      rw [answered] at paused
      exact inserted.keeps_side taken paused
  | held notices answered inserted settled =>
      rw [answered] at paused
      exact inserted.keeps_side taken paused
  | marked notices answered inserted arrays =>
      rw [answered] at paused
      exact inserted.keeps_side taken paused

theorem uninstall (reliable : Reliable caps trusted) (trust : trusted session.kernel)
    (placement : Placement) : trusted (uninstall caps session placement).2.kernel := by
  have given : ∀ (state : KernelSide κ × List Notice) (handle : Option SlotHandle),
      trusted state.1.kernel → trusted (giveUp caps placement.thread state handle).2.1.kernel :=
    fun state handle before => (reliable.giveUpSlot before placement.thread handle).2
  have uninstalled := uninstalls caps session placement
  generalize Session.uninstall caps session placement = outcome at uninstalled
  cases uninstalled with
  | absent missing => exact trust
  | refused notices there present removed => exact removed.keeps_side given trust
  | dropped notices there removed settled => exact removed.keeps_side given trust
  | marked notices there removed arrays => exact removed.keeps_side given trust

theorem uninstall_ok (reliable : Reliable caps trusted) (trust : trusted session.kernel)
    (placement : Placement) : ∃ found, (Session.uninstall caps session placement).1 = .ok found := by
  have uninstalled := uninstalls caps session placement
  generalize Session.uninstall caps session placement = outcome at uninstalled
  cases uninstalled with
  | absent missing => exact ⟨false, rfl⟩
  | dropped | marked => exact ⟨true, rfl⟩
  | refused notices there present removed =>
      cases removed with
      | absent missing => exact absurd missing present
      | @refused _ slot _ _ found there deregistered =>
          have trustSide : trusted (KernelSide.mk session.kernel session.legacyValue).kernel := trust
          have given := (reliable.giveUpSlot trustSide placement.thread slot.handle).1
          have answered := congrArg Prod.fst deregistered
          rw [giveUp, given] at answered
          cases answered

end Reliable

def placedOn (thread : ThreadId) (placements : List Placement) : Multiset EncodedPoint :=
  ↑((placements.filter fun placement => placement.thread = thread).map Placement.point)

def pointsOn (thread : ThreadId) (placements : List Placement) : List EncodedPoint :=
  (placements.filter fun placement => placement.thread = thread).map Placement.point

theorem placedOn_eq (thread : ThreadId) (placements : List Placement) :
    placedOn thread placements = ↑(pointsOn thread placements) :=
  rfl

omit [Kernel κ] in
theorem placedOn_cons_self (placement : Placement) (rest : List Placement) :
    placedOn placement.thread (placement :: rest) =
      placement.point ::ₘ placedOn placement.thread rest := by
  simp [placedOn]

theorem placedOn_cons_of_ne {placement : Placement} {thread : ThreadId}
    (different : thread ≠ placement.thread) (rest : List Placement) :
    placedOn thread (placement :: rest) = placedOn thread rest := by
  simp [placedOn, Ne.symm different]

/-- Each thread holds what the placements put on it, beside what `base` says. -/
def Bears (session : Session κ) (placements : List Placement)
    (base : ThreadId → Multiset EncodedPoint) : Prop :=
  ∀ thread, session.held thread = placedOn thread placements + base thread

section Loops

variable {caps : Capabilities} {trusted : κ → Prop} {session after : Session κ}
  {base : ThreadId → Multiset EncodedPoint} {placement : Placement} {rest : List Placement}

omit [Kernel κ] in
theorem Gains.bears (gained : session.Gains placement after) (before : session.Bears rest base) :
    after.Bears (placement :: rest) base := by
  intro thread
  by_cases here : thread = placement.thread
  · subst here
    rw [gained.1, placedOn_cons_self, before, Multiset.cons_add]
  · rw [gained.2 thread here, placedOn_cons_of_ne here, before]

omit [Kernel κ] in
theorem Gains.bears_rest (gained : after.Gains placement session)
    (before : session.Bears (placement :: rest) base) : after.Bears rest base := by
  intro thread
  have counted := before thread
  by_cases here : thread = placement.thread
  · subst here
    rw [gained.1, placedOn_cons_self, Multiset.cons_add] at counted
    exact (Multiset.cons_inj_right _).mp counted
  · rw [gained.2 thread here, placedOn_cons_of_ne here] at counted
    exact counted

theorem uninstall_of_bears (reliable : Reliable caps trusted) (trust : trusted session.kernel)
    (sound : session.Sound) (borne : session.Bears (placement :: rest) base) :
    ∃ after, uninstall caps session placement = (.ok true, after) ∧ after.Bears rest base := by
  obtain ⟨found, answered⟩ := reliable.uninstall_ok trust placement
  cases outcome : uninstall caps session placement with
  | mk result after =>
      rw [outcome] at answered
      cases answered
      cases found with
      | true => exact ⟨after, rfl, (gains_of_uninstall sound outcome).bears_rest borne⟩
      | false =>
          obtain ⟨_, missing⟩ := not_mem_held_of_uninstall sound outcome
          refine absurd ?_ missing
          rw [borne placement.thread, placedOn_cons_self]
          exact Multiset.mem_add.mpr (.inl (Multiset.mem_cons_self _ _))

theorem rollback_of_bears (reliable : Reliable caps trusted) (trust : trusted session.kernel)
    (sound : session.Sound) {done : List Placement} (tracked : session.Tracked done)
    (borne : session.Bears done base) : (rollback caps session done).Bears [] base := by
  induction done generalizing session with
  | nil => exact borne
  | cons placement rest ih =>
      obtain ⟨later, given, fewer⟩ := uninstall_of_bears reliable trust sound borne
      have same := uninstall_sameProcess caps session placement
      have trustLater := reliable.uninstall trust placement
      have soundLater := uninstall_sound caps sound (tracked placement List.mem_cons_self)
      unfold rollback
      rw [given] at same trustLater soundLater ⊢
      exact ih trustLater soundLater (tracked.rest.after same) fewer

theorem installAll_ok {done placements : List Placement}
    (installed : installAll caps done session placements = (.ok (), after)) (thread : ThreadId) :
    after.held thread = placedOn thread placements + session.held thread := by
  induction placements generalizing session done with
  | nil =>
      cases installed
      exact (zero_add _).symm
  | cons placement rest ih =>
      unfold installAll at installed
      split at installed
      · next middle first =>
          have gained := gains_of_install first
          rw [ih installed]
          by_cases here : thread = placement.thread
          · subst here
            rw [gained.1, placedOn_cons_self, Multiset.add_cons, Multiset.cons_add]
          · rw [gained.2 thread here, placedOn_cons_of_ne here]
      · cases installed

/-- An installation that is broken off leaves what was there before it began. -/
theorem installAll_error (reliable : Reliable caps trusted) (trust : trusted session.kernel)
    (sound : session.Sound) {done placements : List Placement} (trackedDone : session.Tracked done)
    (tracked : session.Tracked placements) (borne : session.Bears done base) {error : PointError}
    (failed : installAll caps done session placements = (.error error, after)) :
    after.Bears [] base := by
  -- `borne` carries the induction: beside `base`, the threads hold exactly what is
  -- already done, which is what the rollback takes away.
  induction placements generalizing session done with
  | nil => cases failed
  | cons placement rest ih =>
      have there := tracked placement List.mem_cons_self
      have same := install_sameProcess caps session placement
      have trustLater := reliable.install trust placement
      have soundLater := install_sound caps sound there
      unfold installAll at failed
      split at failed
      · next middle first =>
          rw [first] at same trustLater soundLater
          exact ih trustLater soundLater ((trackedDone.push there).after same)
            (tracked.rest.after same) ((gains_of_install first).bears borne) failed
      · next cause middle first =>
          rw [first] at same trustLater soundLater
          cases failed
          have bornLater : middle.Bears done base := by
            intro thread
            rw [held_of_install_error first]
            exact borne thread
          let reported := middle.notify (.insertFailed placement.point placement.thread error)
          have trustNow : trusted reported.kernel := trustLater
          have soundNow : reported.Sound := soundLater.congr rfl rfl
          have trackedNow : reported.Tracked done :=
            trackedDone.after (same.trans ⟨rfl, rfl, rfl, rfl, rfl⟩)
          have undone : (rollback caps reported done).Bears [] base :=
            rollback_of_bears reliable trustNow soundNow trackedNow bornLater
          exact undone

theorem uninstallAll_of_bears (reliable : Reliable caps trusted) (trust : trusted session.kernel)
    (sound : session.Sound) {done placements : List Placement} (tracked : session.Tracked placements)
    (borne : session.Bears placements base) :
    ∃ after, uninstallAll caps done session placements = (.ok (), after) ∧ after.Bears [] base := by
  induction placements generalizing session done with
  | nil => exact ⟨session, rfl, borne⟩
  | cons placement rest ih =>
      obtain ⟨later, given, fewer⟩ := uninstall_of_bears reliable trust sound borne
      have same := uninstall_sameProcess caps session placement
      have trustLater := reliable.uninstall trust placement
      have soundLater := uninstall_sound caps sound (tracked placement List.mem_cons_self)
      unfold uninstallAll
      rw [given] at same trustLater soundLater ⊢
      exact ih trustLater soundLater (tracked.rest.after same) fewer

end Loops

section Points

variable {caps : Capabilities} {trusted : κ → Prop} {session after : Session κ}
  {points : List EncodedPoint}

omit [Kernel κ] in
theorem held_ensure (session : Session κ) (thread : ThreadId) (caps : Capabilities) :
    Session.held { session with sets := session.sets.ensure thread caps } = session.held := by
  funext other
  unfold held
  dsimp only
  by_cases here : other = thread
  · subst here
    rw [ThreadSets.get?_ensure_self]
    cases session.sets.get? other with
    | none => exact ThreadPoints.contents_empty other caps
    | some points => rfl
  · rw [ThreadSets.get?_ensure_of_ne _ _ here]

omit [Kernel κ] in
theorem held_checkRoom (session : Session κ) (caps : Capabilities) (bank : RegisterBank)
    (points : List EncodedPoint) (threads : List ThreadId) :
    Session.held { session with sets := (checkRoom caps bank points threads session.sets).2 } =
      session.held := by
  induction threads generalizing session with
  | nil => rfl
  | cons thread rest ih =>
      have made := held_ensure session thread caps
      unfold checkRoom
      dsimp only
      split
      · exact made
      · exact (ih { session with sets := session.sets.ensure thread caps }).trans made

theorem pointsOn_append (thread : ThreadId) (first second : List Placement) :
    pointsOn thread (first ++ second) = pointsOn thread first ++ pointsOn thread second := by
  simp [pointsOn]

theorem pointsOn_map_self (thread : ThreadId) (points : List EncodedPoint) :
    pointsOn thread (points.map fun point => ⟨thread, point⟩) = points := by
  have all : (points.map fun point => (⟨thread, point⟩ : Placement)).filter
      (fun placement => placement.thread = thread) = points.map fun point => ⟨thread, point⟩ := by
    refine List.filter_eq_self.mpr fun placement member => ?_
    obtain ⟨point, _, rfl⟩ := List.mem_map.mp member
    exact decide_eq_true rfl
  rw [pointsOn, all, List.map_map]
  exact List.map_id points

theorem pointsOn_map_of_ne {thread other : ThreadId} (different : other ≠ thread)
    (points : List EncodedPoint) :
    pointsOn thread (points.map fun point => ⟨other, point⟩) = [] := by
  simp [pointsOn, different]

/-- Every thread is to get all points once. -/
theorem pointsOn_placements {threads : List ThreadId} (distinct : threads.Nodup)
    (points : List EncodedPoint) (thread : ThreadId) :
    pointsOn thread (threads.flatMap fun other => points.map fun point => ⟨other, point⟩) =
      if thread ∈ threads then points else [] := by
  induction threads with
  | nil => rfl
  | cons first rest ih =>
      obtain ⟨absent, distinct⟩ := List.nodup_cons.mp distinct
      rw [List.flatMap_cons, pointsOn_append, ih distinct]
      by_cases here : first = thread
      · subst here
        rw [pointsOn_map_self, if_neg absent, if_pos List.mem_cons_self, List.append_nil]
      · rw [pointsOn_map_of_ne here, List.nil_append]
        simp [Ne.symm here]

theorem placedOn_placements {threads : List ThreadId} (distinct : threads.Nodup)
    (points : List EncodedPoint) (thread : ThreadId) :
    placedOn thread (threads.flatMap fun other => points.map fun point => ⟨other, point⟩) =
      if thread ∈ threads then ↑points else 0 := by
  rw [placedOn_eq, pointsOn_placements distinct]
  split <;> rfl

theorem insertPoints_ok (sound : session.Sound)
    (inserted : insertPoints caps session points = (.ok (), after)) {thread : ThreadId}
    (tracked : thread ∈ session.threads) :
    after.held thread = ↑points + session.held thread := by
  unfold insertPoints at inserted
  split at inserted
  · cases inserted
    exact (zero_add _).symm
  · next first rest =>
      split at inserted
      · cases inserted
      · next sets room =>
          split at inserted
          · cases inserted
          · next final installed =>
              cases inserted
              have checked := held_checkRoom session caps first.kind.bank (first :: rest)
                session.threads
              rw [room] at checked
              have shown : (final.showRegisters "insert").held = final.held := by
                refine held_congr ?_
                unfold showRegisters
                split <;> rfl
              rw [shown, installAll_ok installed thread, checked]
              unfold placements
              rw [placedOn_placements sound.distinct, if_pos tracked]

/-- Points that cannot be inserted everywhere are inserted nowhere. -/
theorem insertPoints_error (reliable : Reliable caps trusted) (trust : trusted session.kernel)
    (sound : session.Sound) {error : PointError}
    (failed : insertPoints caps session points = (.error error, after)) :
    after.held = session.held := by
  unfold insertPoints at failed
  split at failed
  · cases failed
  · next first rest =>
      have checked := held_checkRoom session caps first.kind.bank (first :: rest) session.threads
      have soundLater := (keptByChanges_sound caps).checkRoom first.kind.bank (first :: rest)
        (fun _ member => member) sound
      split at failed
      · next room =>
          rw [room] at checked
          cases failed
          exact checked
      · next sets room =>
          rw [room] at checked soundLater
          split at failed
          · next final installed =>
              cases failed
              have borne : Bears { session with sets } [] session.held := by
                intro thread
                rw [checked]
                exact (zero_add _).symm
              have trustLater : trusted (Session.kernel { session with sets }) := trust
              have kept := installAll_error reliable trustLater soundLater (tracked_nil _)
                (tracked_placements { session with sets } (first :: rest)) borne installed
              funext thread
              exact (kept thread).trans (zero_add _)
          · cases failed

theorem removePoints_ok (reliable : Reliable caps trusted) (trust : trusted session.kernel)
    (sound : session.Sound) {base : Multiset EncodedPoint}
    (holds : ∀ thread ∈ session.threads, session.held thread = ↑points + base) :
    ∃ after, removePoints caps session points = (.ok (), after) ∧
      ∀ thread ∈ session.threads, after.held thread = base := by
  have borne : session.Bears (session.placements points) fun thread =>
      if thread ∈ session.threads then base else session.held thread := by
    intro thread
    unfold placements
    rw [placedOn_placements sound.distinct]
    dsimp only
    by_cases tracked : thread ∈ session.threads
    · rw [if_pos tracked, if_pos tracked, holds thread tracked]
    · rw [if_neg tracked, if_neg tracked, zero_add]
  obtain ⟨final, removed, left⟩ := @uninstallAll_of_bears _ _ _ _ _ _ reliable trust sound []
    (session.placements points) (tracked_placements session points) borne
  refine ⟨final.showRegisters "remove", ?_, fun thread tracked => ?_⟩
  · unfold removePoints
    rw [removed]
  · have shown : (final.showRegisters "remove").held = final.held := by
      refine held_congr ?_
      unfold showRegisters
      split <;> rfl
    have kept := left thread
    dsimp only at kept
    rw [if_pos tracked] at kept
    rw [shown, kept]
    exact zero_add _

end Points

end DebugRegisters.Session
