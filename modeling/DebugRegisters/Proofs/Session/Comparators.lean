import DebugRegisters.Proofs.Session.Agreement
import DebugRegisters.Proofs.Session.Steady
import DebugRegisters.Proofs.SlotTable.Comparators

/-!
# Comparators of all threads

A comparator is asked for only while every thread has one left. What a change
has still to install, or may have to install again, is counted as wanted on its
thread: no step of the change raises what is in use and wanted together, whichever
calls fail, so at its end no thread uses more than it could have wanted.
-/

set_option autoImplicit false

namespace DebugRegisters

open Encoding (attachComparator)

theorem countP_of_encode {request : PointRequest} {caps : Capabilities} {table : Option MaskTable}
    {comparator : Option Comparator} {points : List EncodedPoint}
    (encoded : encode request caps ⟨table, comparator⟩ = .ok points) :
    points.countP EncodedPoint.usesComparator ≤ if comparator.isSome then 1 else 0 := by
  obtain ⟨bare, plain, same | ⟨point, single, attached⟩⟩ := encode_plain encoded
  · subst same
    have unused : points.countP EncodedPoint.usesComparator = 0 := by
      refine List.countP_eq_zero.mpr ?_
      intro point member
      simp [EncodedPoint.usesComparator, (plain_encode plain).comparators point member]
    omega
  · subst attached
    cases comparator <;> simp [EncodedPoint.usesComparator]

theorem SlotTable.SamePoints.comparatorsInUse_eq {table other : SlotTable}
    (same : table.SamePoints other) : other.comparatorsInUse = table.comparatorsInUse := by
  have points : ∀ table : SlotTable, table.points = (table.slots.map Slot.point).filterMap id := by
    intro table
    rw [List.filterMap_map]
    rfl
  rw [SlotTable.comparatorsInUse_eq, SlotTable.comparatorsInUse_eq, points, points, same.points]

namespace Session

def watchpointsOn (thread : ThreadId) (placements : List Placement) : Finset EncodedPoint :=
  ((pointsOn thread placements).filter fun point => point.kind.bank = .watchpoints).toFinset

section Placements

variable {thread : ThreadId} {placement : Placement}

theorem mem_watchpointsOn {placements : List Placement} {point : EncodedPoint} :
    point ∈ watchpointsOn thread placements ↔
      ⟨thread, point⟩ ∈ placements ∧ point.kind.bank = .watchpoints := by
  simp only [watchpointsOn, pointsOn, List.mem_toFinset, List.mem_filter, List.mem_map,
    decide_eq_true_eq]
  constructor
  · rintro ⟨⟨placement, ⟨listed, rfl⟩, rfl⟩, watch⟩
    exact ⟨listed, watch⟩
  · rintro ⟨listed, watch⟩
    exact ⟨⟨_, ⟨listed, rfl⟩, rfl⟩, watch⟩

theorem watchpointsOn_cons_self (watch : placement.point.kind.bank = .watchpoints)
    (rest : List Placement) :
    watchpointsOn placement.thread (placement :: rest) =
      Insert.insert placement.point (watchpointsOn placement.thread rest) := by
  ext point
  rw [Finset.mem_insert, mem_watchpointsOn, mem_watchpointsOn, List.mem_cons]
  constructor
  · rintro ⟨same | listed, also⟩
    · exact .inl (congrArg Placement.point same)
    · exact .inr ⟨listed, also⟩
  · rintro (rfl | ⟨listed, also⟩)
    · exact ⟨.inl rfl, watch⟩
    · exact ⟨.inr listed, also⟩

theorem watchpointsOn_cons_of_ne
    (other : ¬(thread = placement.thread ∧ .watchpoints = placement.point.kind.bank))
    (rest : List Placement) :
    watchpointsOn thread (placement :: rest) = watchpointsOn thread rest := by
  ext point
  rw [mem_watchpointsOn, mem_watchpointsOn, List.mem_cons]
  constructor
  · rintro ⟨rfl | listed, watch⟩
    · exact absurd ⟨rfl, watch.symm⟩ other
    · exact ⟨listed, watch⟩
  · rintro ⟨listed, watch⟩
    exact ⟨.inr listed, watch⟩

theorem watchpointsOn_subset_cons (thread : ThreadId) (placement : Placement)
    (rest : List Placement) :
    watchpointsOn thread rest ⊆ watchpointsOn thread (placement :: rest) := by
  intro point member
  obtain ⟨listed, watch⟩ := mem_watchpointsOn.mp member
  exact mem_watchpointsOn.mpr ⟨List.mem_cons_of_mem _ listed, watch⟩

end Placements

variable {κ : Type}

/-- The comparators of a thread that are in use, or would be with the points that
the placements put on it. -/
def claims (session : Session κ) (caps : Capabilities) (thread : ThreadId)
    (wanted : List Placement) : Nat :=
  (session.tableOf caps thread .watchpoints).claims (watchpointsOn thread wanted)

section Claims

variable {session after : Session κ} {caps : Capabilities} {thread : ThreadId}
  {placement : Placement}

@[simp] theorem claims_nil (session : Session κ) (caps : Capabilities) (thread : ThreadId) :
    session.claims caps thread [] =
      (session.tableOf caps thread .watchpoints).comparatorsInUse := by
  simp [claims, watchpointsOn, pointsOn]

theorem claims_congr (same : after.tableOf caps = session.tableOf caps) (thread : ThreadId)
    (wanted : List Placement) :
    after.claims caps thread wanted = session.claims caps thread wanted := by
  rw [claims, claims, same]

theorem claims_rest_le (session : Session κ) (caps : Capabilities) (thread : ThreadId)
    (placement : Placement) (rest : List Placement) :
    session.claims caps thread rest ≤ session.claims caps thread (placement :: rest) :=
  SlotTable.claims_mono _ (watchpointsOn_subset_cons thread placement rest)

theorem claims_nil_le (session : Session κ) (caps : Capabilities) (thread : ThreadId)
    (wanted : List Placement) :
    session.claims caps thread [] ≤ session.claims caps thread wanted := by
  rw [claims_nil]
  exact SlotTable.comparatorsInUse_le_claims _ _

/-- Where a table that is put in place claims no more than the one before it, no
thread claims more. -/
theorem Puts.claims_le {table : SlotTable} {before now : List Placement}
    (puts : session.Puts caps placement table after)
    (here : .watchpoints = placement.point.kind.bank →
      table.claims (watchpointsOn placement.thread now) ≤
        (session.target caps placement).claims (watchpointsOn placement.thread before))
    (elsewhere : ¬(thread = placement.thread ∧ .watchpoints = placement.point.kind.bank) →
      watchpointsOn thread now ⊆ watchpointsOn thread before) :
    after.claims caps thread now ≤ session.claims caps thread before := by
  by_cases own : thread = placement.thread ∧ .watchpoints = placement.point.kind.bank
  · obtain ⟨rfl, watch⟩ := own
    have allowed := here watch
    unfold target at allowed
    unfold claims
    rwa [watch, puts.here]
  · unfold claims
    rw [puts.elsewhere thread .watchpoints own]
    exact SlotTable.claims_mono _ (elsewhere own)

/-- Wanted points take a comparator each at most. -/
theorem claims_le (session : Session κ) (caps : Capabilities) (thread : ThreadId)
    {wanted : List Placement} {points : List EncodedPoint}
    (among : ∀ placement ∈ wanted, placement.point ∈ points) :
    session.claims caps thread wanted ≤
      (session.tableOf caps thread .watchpoints).comparatorsInUse +
        points.countP EncodedPoint.usesComparator := by
  refine le_trans (SlotTable.claims_mono _ ?_) (SlotTable.claims_le _ points)
  intro point member
  obtain ⟨listed, -⟩ := mem_watchpointsOn.mp member
  exact List.mem_toFinset.mpr (among _ listed)

end Claims

section Steps

variable [Kernel κ] {session after : Session κ} {caps : Capabilities}

/-- However an installation ends, its point is not wanted any more. -/
theorem claims_install_le (caps : Capabilities) (session : Session κ) (placement : Placement)
    (thread : ThreadId) (rest : List Placement) :
    (install caps session placement).2.claims caps thread rest ≤
      session.claims caps thread (placement :: rest) := by
  cases installed : install caps session placement with
  | mk result after =>
      cases result with
      | error error =>
          rw [claims_congr (install_error installed).1]
          exact claims_rest_le _ _ _ _ _
      | ok =>
          obtain ⟨_, _, table, _, _, inserted, _, _, _, puts⟩ := install_ok installed
          refine puts.claims_le (fun watch => ?_) fun _ => watchpointsOn_subset_cons _ _ _
          rw [watchpointsOn_cons_self watch.symm]
          exact inserted.claims_le _

/-- A point that was given up can be wanted back. -/
theorem claims_uninstalled_le {placement : Placement}
    (given : uninstall caps session placement = (.ok true, after)) (thread : ThreadId)
    (done : List Placement) :
    after.claims caps thread (placement :: done) ≤ session.claims caps thread done := by
  obtain ⟨_, table, _, _, removed, _, _, _, puts⟩ := uninstall_true given
  refine puts.claims_le (fun watch => ?_) fun other => ?_
  · rw [watchpointsOn_cons_self watch.symm]
    exact removed.claims_le _
  · rw [watchpointsOn_cons_of_ne other]

theorem claims_uninstall_le (caps : Capabilities) (session : Session κ) (placement : Placement)
    (thread : ThreadId) (done : List Placement) :
    (uninstall caps session placement).2.claims caps thread done ≤
      session.claims caps thread done := by
  cases uninstalled : uninstall caps session placement with
  | mk result after =>
      match result, uninstalled with
      | .ok true, given =>
          exact (claims_rest_le _ _ _ _ _).trans (claims_uninstalled_le given thread done)
      | .ok false, passed =>
          rw [(uninstall_false passed).1]
      | .error _, refused =>
          rw [claims_congr (uninstall_error refused).1]

end Steps

section Runs

variable [Kernel κ] {session : Session κ} {caps : Capabilities} {thread : ThreadId}

omit [Kernel κ] in
theorem claims_notify (session : Session κ) (notice : Notice) (wanted : List Placement) :
    (session.notify notice).claims caps thread wanted = session.claims caps thread wanted :=
  claims_congr (tableOf_congr rfl caps) thread wanted

theorem claims_rollback_le (done : List Placement) :
    (rollback caps session done).claims caps thread [] ≤ session.claims caps thread [] := by
  induction done generalizing session with
  | nil => exact le_refl _
  | cons placement rest ih =>
      have first := claims_uninstall_le caps session placement thread []
      unfold rollback
      split
      · next answered =>
          rw [answered] at first
          exact ih.trans first
      · next answered =>
          rw [answered] at first
          refine ih.trans ?_
          rwa [claims_notify]

theorem claims_restore_le (done : List Placement) :
    (restore caps session done).claims caps thread [] ≤ session.claims caps thread done := by
  induction done generalizing session with
  | nil => exact le_refl _
  | cons placement rest ih =>
      have first := claims_install_le caps session placement thread rest
      unfold restore
      split
      · next answered =>
          rw [answered] at first
          exact ih.trans first
      · next answered =>
          rw [answered] at first
          refine ih.trans ?_
          rwa [claims_notify]

theorem claims_installAll_le (done placements : List Placement) :
    (installAll caps done session placements).2.claims caps thread [] ≤
      session.claims caps thread placements := by
  induction placements generalizing session done with
  | nil => exact le_refl _
  | cons placement rest ih =>
      have first := claims_install_le caps session placement thread rest
      unfold installAll
      split
      · next answered =>
          rw [answered] at first
          exact (ih _).trans first
      · next answered =>
          rw [answered] at first
          refine (claims_rollback_le done).trans ?_
          rw [claims_notify]
          exact (claims_nil_le _ _ _ rest).trans first

theorem claims_uninstallAll_le (done placements : List Placement) :
    (uninstallAll caps done session placements).2.claims caps thread [] ≤
      session.claims caps thread done := by
  induction placements generalizing session done with
  | nil => exact claims_nil_le _ _ _ done
  | cons placement rest ih =>
      have first := claims_uninstall_le caps session placement thread done
      unfold uninstallAll
      split
      · next answered => exact (ih _).trans (claims_uninstalled_le answered thread done)
      · next answered =>
          rw [answered] at first
          exact (ih _).trans first
      · next answered =>
          rw [answered] at first
          refine (claims_restore_le done).trans ?_
          rwa [claims_notify]

omit [Kernel κ] in
theorem tableOf_showRegisters (session : Session κ) (operation : String) (caps : Capabilities) :
    (session.showRegisters operation).tableOf caps = session.tableOf caps :=
  tableOf_congr (sameTables_showRegisters session operation).sets caps

theorem comparatorsInUse_insertPoints_le (points : List EncodedPoint) :
    ((insertPoints caps session points).2.tableOf caps thread .watchpoints).comparatorsInUse ≤
      (session.tableOf caps thread .watchpoints).comparatorsInUse +
        points.countP EncodedPoint.usesComparator := by
  match points with
  | [] => exact Nat.le_add_right _ _
  | first :: rest =>
      have room := tableOf_checkRoom session caps first.kind.bank (first :: rest) session.threads
      unfold insertPoints
      dsimp only
      split
      · next answered =>
          rw [answered] at room
          rw [room]
          exact Nat.le_add_right _ _
      · next sets answered =>
          rw [answered] at room
          have among : ∀ placement ∈ session.placements (first :: rest),
              placement.point ∈ first :: rest := fun placement => point_of_placements
          have wanted := claims_le { session with sets } caps thread among
          rw [room] at wanted
          have installed := (claims_installAll_le [] _).trans wanted
          rw [claims_nil] at installed
          split
          · next failed =>
              rw [failed] at installed
              exact installed
          · next done =>
              rw [done] at installed
              rwa [tableOf_showRegisters]

theorem comparatorsInUse_removePoints_le (points : List EncodedPoint) :
    ((removePoints caps session points).2.tableOf caps thread .watchpoints).comparatorsInUse ≤
      (session.tableOf caps thread .watchpoints).comparatorsInUse := by
  have removed := @claims_uninstallAll_le _ _ session caps thread [] (session.placements points)
  rw [claims_nil, claims_nil] at removed
  unfold removePoints
  split
  · next failed =>
      rw [failed] at removed
      exact removed
  · next done =>
      rw [done] at removed
      rwa [tableOf_showRegisters]

end Runs

def ComparatorsSuffice (caps : Capabilities) (session : Session κ) : Prop :=
  ∀ thread, (session.tableOf caps thread .watchpoints).comparatorsInUse ≤ caps.comparators

section Operations

variable {session after : Session κ} {caps : Capabilities}

theorem comparatorsSuffice_of_bare (bare : session.sets.toList = []) (caps : Capabilities) :
    ComparatorsSuffice caps session := by
  intro thread
  rw [tableOf_of_bare bare, SlotTable.comparatorsInUse_empty]
  exact Nat.zero_le _

theorem comparatorsInUse_le (session : Session κ) (caps : Capabilities) (thread : ThreadId) :
    (session.tableOf caps thread .watchpoints).comparatorsInUse ≤ session.comparatorsInUse := by
  cases there : session.sets.get? thread with
  | none =>
      rw [tableOf_of_none there, SlotTable.comparatorsInUse_empty]
      exact Nat.zero_le _
  | some points =>
      have listed : points.watchpoints.table.comparatorsInUse ∈
          session.sets.toList.map fun points => points.watchpoints.table.comparatorsInUse :=
        List.mem_map_of_mem (ThreadSets.mem_of_get? there)
      rw [tableOf_of_get? there, comparatorsInUse, List.foldl_max_eq_max (List.ne_nil_of_mem listed)]
      exact (List.le_max_of_mem listed).trans (Nat.le_max_right _ _)

namespace ComparatorsSuffice

theorem congr (enough : ComparatorsSuffice caps session) (sets : after.sets = session.sets) :
    ComparatorsSuffice caps after :=
  fun thread => tableOf_congr sets caps ▸ enough thread

theorem notify (enough : ComparatorsSuffice caps session) (notice : Notice) :
    ComparatorsSuffice caps (session.notify notice) :=
  enough.congr rfl

theorem forget (enough : ComparatorsSuffice caps session) (thread : ThreadId) :
    ComparatorsSuffice caps (session.forget thread) := by
  intro other
  rcases tableOf_forget session thread other caps .watchpoints with empty | same
  · rw [empty, SlotTable.comparatorsInUse_empty]
    exact Nat.zero_le _
  · exact same ▸ enough other

theorem keptByResuming (caps : Capabilities) :
    KeptByResuming fun session : Session κ => ComparatorsSuffice caps session where
  call enough _ := enough.congr rfl
  markWritten enough thread bank other := by
    rw [tableOf_markWritten]
    exact enough other
  restrictTo {session} enough _ other := by
    rw [tableOf_restrictTo]
    refine le_trans (SlotTable.comparatorsInUse_mapPoints_le fun point => ?_) (enough other)
    obtain ⟨span, same⟩ := session.restriction.table.restrict_eq point
    rw [same]
    rfl

variable [Kernel κ]

/-- Points may be inserted that use no more comparators than every thread has left. -/
theorem insertPoints (enough : ComparatorsSuffice caps session) {points : List EncodedPoint}
    (few : points.countP EncodedPoint.usesComparator ≤ caps.comparators - session.comparatorsInUse) :
    ComparatorsSuffice caps (insertPoints caps session points).2 := by
  intro thread
  have inserted : ((Session.insertPoints caps session points).2.tableOf caps thread
      .watchpoints).comparatorsInUse ≤ _ := comparatorsInUse_insertPoints_le points
  have before := enough thread
  have most := session.comparatorsInUse_le caps thread
  omega

theorem removePoints (enough : ComparatorsSuffice caps session) (points : List EncodedPoint) :
    ComparatorsSuffice caps (removePoints caps session points).2 :=
  fun thread => (comparatorsInUse_removePoints_le points).trans (enough thread)

theorem insertDemand (enough : ComparatorsSuffice session.capabilities.1 session.capabilities.2)
    (demand : Demand) :
    ComparatorsSuffice session.capabilities.1 (session.insertDemand demand).2 := by
  cases demand with
  | plain request =>
      unfold Session.insertDemand Session.insert
      dsimp only
      split
      · exact enough
      · next points encoded =>
          refine (enough.notify _).insertPoints ?_
          change _ ≤ session.capabilities.1.comparators - session.capabilities.2.comparatorsInUse
          have counted := countP_of_encode encoded
          unfold insertComparator? at counted
          split at counted
          · exact counted.trans (Nat.zero_le _)
          · split at counted <;> omega
  | masked kind address mask =>
      unfold Session.insertDemand insertMasked
      dsimp only
      split
      · exact enough
      · next point encoded =>
          refine (enough.notify _).insertPoints ?_
          simp [EncodedPoint.usesComparator, (encodeMasked_shape encoded).2.1]

theorem removeDemand (enough : ComparatorsSuffice session.capabilities.1 session.capabilities.2)
    (demand : Demand) :
    ComparatorsSuffice session.capabilities.1 (session.removeDemand demand).2 := by
  rcases removeDemand_cases session demand with
    ⟨error, refused⟩ | ⟨points, serves, installed, begun⟩
  · rw [refused]
    exact enough
  · rw [begun]
    exact (enough.notify demand.removalNotice).removePoints points

theorem addThread (enough : ComparatorsSuffice session.capabilities.1 session.capabilities.2)
    (sound : session.capabilities.2.Sound) (thread : ThreadId) :
    ComparatorsSuffice session.capabilities.1 (session.addThread thread).2 := by
  intro other
  obtain ⟨model, same⟩ := tableOf_addThread sound thread other .watchpoints
  rw [same.comparatorsInUse_eq]
  exact enough model

theorem keptOnceKnown :
    KeptOnceKnown fun (caps : Capabilities) (session : Session κ) => ComparatorsSuffice caps session
    where
  congr enough sets _ := enough.congr sets
  bare _ bare := comparatorsSuffice_of_bare bare _
  insertDemand _ enough demand := enough.insertDemand demand
  removeDemand _ enough demand := enough.removeDemand demand
  addThread sound enough thread := enough.addThread sound thread
  prepareToResume enough thread := (keptByResuming _).prepareToResume enough thread
  forget enough thread := enough.forget thread

end ComparatorsSuffice

end Operations

section Reached

variable [Kernel κ]

/-- However the operations on a session follow each other, and whichever of the
kernel's calls fail, no thread's watchpoints use more comparators than there are. -/
theorem comparators_never_oversubscribed {kernel : κ} {leader : ThreadId} {settings : Settings}
    {capabilities? : Option Capabilities} {session : Session κ}
    (reached : Reaches (.start kernel leader settings capabilities?) session) {thread : ThreadId}
    {points : ThreadPoints} (there : session.sets.get? thread = some points) :
    ∃ caps, session.capabilities? = some caps ∧
      points.watchpoints.table.comparatorsInUse ≤ caps.comparators := by
  have supplied := ComparatorsSuffice.keptOnceKnown.reached reached
    (ComparatorsSuffice.keptOnceKnown.start kernel leader settings capabilities?)
  cases known : session.capabilities? with
  | none =>
      have listed := ThreadSets.mem_of_get? there
      rw [supplied.bare known] at listed
      cases listed
  | some caps =>
      refine ⟨caps, rfl, ?_⟩
      have enough := supplied.known caps known thread
      rwa [tableOf_of_get? there] at enough

/-- There is one comparator for three watchpoints. The first watch has it, and is
neither removed from the second thread nor restored on the first. So the second
thread alone has none left, and the next watch does without. -/
theorem comparators_never_oversubscribed_out_of_step :
    let kernel : SimulatedKernel := .withHandles true
      { version := 1, instructionPoints := 0, dataPoints := 3, comparators := 1,
        dataAlignment := 4, comparatorWidth := 4, features := 0x8 }
    let watch : Address → PointRequest := fun address =>
      ⟨.write, address, 4, 0, some ⟨.equal, .memory address 4, .constant 7 4⟩⟩
    let history := (History.ofSession (.start kernel ⟨1⟩ .standard none)).afterAll
      [.newThread ⟨2⟩, .insert (.plain (watch ⟨0x1000⟩)), .fail ⟨.deregister, some ⟨2⟩, .os 5⟩,
        .fail ⟨.register, some ⟨1⟩, .os 12⟩, .remove (.plain (watch ⟨0x1000⟩)),
        .insert (.plain (watch ⟨0x2000⟩)), .insert (.plain (watch ⟨0x1000⟩))]
    let inUse : ThreadId → Option (Nat × Nat) := fun thread =>
      (history.session.sets.get? thread).map fun points =>
        (points.watchpoints.table.comparatorsInUse, points.watchpoints.table.used)
    Reaches (.start kernel ⟨1⟩ .standard none) history.session ∧
      history.session.capabilities?.map Capabilities.comparators = some 1 ∧
      inUse ⟨1⟩ = some (0, 2) ∧ inUse ⟨2⟩ = some (1, 3) ∧
      ∃ points, history.session.sets.get? ⟨2⟩ = some points ∧
        ∃ caps, history.session.capabilities? = some caps ∧
          points.watchpoints.table.comparatorsInUse ≤ caps.comparators := by
  intro kernel watch history inUse
  have leads : History.Leads (fun _ _ => True)
      (.ofSession (.start kernel ⟨1⟩ .standard none)) history :=
    History.leads_afterAll .start (by decide)
  have reached : Reaches (.start kernel ⟨1⟩ .standard none) history.session :=
    leads.kept (keptByEvents_reaches _) .start
  have second : inUse ⟨2⟩ = some (1, 3) := by decide
  obtain ⟨points, there, -⟩ := Option.map_eq_some_iff.mp second
  exact ⟨reached, by decide, by decide, second, points, there,
    comparators_never_oversubscribed reached there⟩

end Reached

end Session

end DebugRegisters
