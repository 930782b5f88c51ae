import DebugRegisters.Proofs.Session.Basis
import DebugRegisters.Proofs.SlotTable.Registers

/-!
# Threads that come and go

A thread that appears gets the slots of its pattern, or nothing where there is
no pattern or the kernel refuses. Registering points anew replaces handles and
touches no point and no reference count. A thread that exits takes its points
with it, and beside them only registrations are dropped.
-/

set_option autoImplicit false

namespace DebugRegisters

structure SlotTable.SamePoints (table other : SlotTable) : Prop where
  points : other.slots.map Slot.point = table.slots.map Slot.point
  contents : other.contents = table.contents
  kept : ∀ bank, table.IsKept bank → other.IsKept bank

namespace SlotTable

theorem SamePoints.refl (table : SlotTable) : table.SamePoints table :=
  ⟨rfl, rfl, fun _ kept => kept⟩

theorem SamePoints.trans {table middle after : SlotTable} (first : table.SamePoints middle)
    (second : middle.SamePoints after) : table.SamePoints after :=
  ⟨second.points.trans first.points, second.contents.trans first.contents,
    fun bank kept => second.kept bank (first.kept bank kept)⟩

theorem samePoints_setHandle {table : SlotTable} {index : Nat} {slot : Slot} {point : EncodedPoint}
    (there : table.get? index = some slot) (holds : slot.point = some point)
    (handle : Option SlotHandle) : table.SamePoints (table.setHandle index handle) where
  points := by
    refine List.ext_getElem? fun position => ?_
    change ((table.slots.modify index _).map Slot.point)[position]? = _
    rw [List.getElem?_map, List.getElem?_map, List.getElem?_modify]
    cases table.slots[position]? with
    | none => rfl
    | some slot =>
        change some (Slot.point _) = some slot.point
        split <;> rfl
  contents := contents_setHandle there handle
  kept bank kept := by
    refine IsKept.modify kept fun other found => ?_
    rw [there] at found
    cases found
    rcases kept slot (List.mem_of_getElem? there) with rfl | ⟨held, same, sorted, counted⟩
    · cases holds
    · exact .inr ⟨held, same, sorted, counted⟩

end SlotTable

namespace Session

variable {κ : Type} [Kernel κ]

structure SameTables (session after : Session κ) : Prop extends SameProcess session after where
  sets : after.sets = session.sets
  legacyValue : after.legacyValue = session.legacyValue

omit [Kernel κ] in
theorem SameTables.refl (session : Session κ) : session.SameTables session :=
  ⟨.refl session, rfl, rfl⟩

omit [Kernel κ] in
theorem SameTables.trans {session middle after : Session κ} (first : session.SameTables middle)
    (second : middle.SameTables after) : session.SameTables after :=
  ⟨first.toSameProcess.trans second.toSameProcess, second.sets.trans first.sets,
    second.legacyValue.trans first.legacyValue⟩

omit [Kernel κ] in
theorem SameTables.of_kernel (session : Session κ) (kernel : κ) (notices : List Notice) :
    session.SameTables { session with kernel, notices } :=
  ⟨⟨rfl, rfl, rfl, rfl, rfl⟩, rfl, rfl⟩

theorem dropRegistrations_sameTables (report : SlotHandle → KernelError → Notice)
    (session : Session κ) (thread : ThreadId) (handles : List SlotHandle) :
    session.SameTables (dropRegistrations report session thread handles) := by
  induction handles generalizing session with
  | nil => exact .refl session
  | cons handle rest ih =>
      unfold dropRegistrations
      split
      · exact .trans (.of_kernel session _ _) (ih _)
      · exact .trans (.of_kernel session _ _) (ih _)

/-- The points for a new thread, as far as they are registered, have the slots
of `pattern`. -/
structure Copies (thread : ThreadId) (pattern points : ThreadPoints) : Prop where
  thread : points.thread = thread
  tables : ∀ bank, (pattern.table bank).SamePoints (points.table bank)

omit [Kernel κ] in
theorem Copies.setHandle {thread : ThreadId} {pattern points : ThreadPoints} {bank : RegisterBank}
    {index : Nat} {slot : Slot} {point : EncodedPoint} (copied : Copies thread pattern points)
    (there : (points.table bank).get? index = some slot) (holds : slot.point = some point)
    (handle : Option SlotHandle) :
    Copies thread pattern (points.setTable bank ((points.table bank).setHandle index handle)) := by
  refine ⟨(ThreadPoints.thread_setTable _ _ _).trans copied.thread, fun other => ?_⟩
  by_cases here : other = bank
  · subst here
    rw [ThreadPoints.table_setTable_self]
    exact (copied.tables other).trans (SlotTable.samePoints_setHandle there holds handle)
  · rw [ThreadPoints.table_setTable_of_ne _ _ here]
    exact copied.tables other

theorem registerSlots_copies {thread : ThreadId} {pattern points : ThreadPoints}
    (bank : RegisterBank) (registered : List SlotHandle) (session : Session κ)
    (slots : List (Nat × Slot)) (copied : Copies thread pattern points)
    (there : ∀ entry ∈ slots, ∃ slot, (points.table bank).get? entry.1 = some slot ∧
      slot.point = entry.2.point) :
    session.SameTables (registerSlots thread bank points registered session slots).2 ∧
      ∀ after handles, (registerSlots thread bank points registered session slots).1 =
        .ok (after, handles) → Copies thread pattern after := by
  -- `points` is filled in slot by slot; a handle that is set leaves all points as
  -- they are, so what is asked of the later slots still holds.
  induction slots generalizing session points registered with
  | nil =>
      refine ⟨.refl session, fun after handles answered => ?_⟩
      cases answered
      exact copied
  | cons entry rest ih =>
      obtain ⟨index, slot⟩ := entry
      have later := fun entry member => there entry (List.mem_cons_of_mem _ member)
      unfold registerSlots
      split
      · exact ih _ _ copied later
      · next point holds =>
          have dropped : session.SameTables (session.dropStale thread slot.handle) :=
            dropRegistrations_sameTables _ _ _ _
          dsimp only
          split
          · refine ⟨dropped.trans (.trans (.of_kernel _ _ _) (dropRegistrations_sameTables _ _ _ _)),
              fun after handles answered => ?_⟩
            cases answered
          · next handle kernel registeredNow =>
              obtain ⟨current, found, same⟩ := there (index, slot) List.mem_cons_self
              have next := copied.setHandle found (same.trans holds) (some handle)
              obtain ⟨tables, answers⟩ := ih _ _ next (fun entry member => by
                obtain ⟨slot, found, same⟩ := later entry member
                rw [ThreadPoints.table_setTable_self]
                by_cases here : entry.1 = index
                · rw [here] at found ⊢
                  rw [SlotTable.get?_setHandle_self, found]
                  exact ⟨_, rfl, same⟩
                · rw [SlotTable.get?_setHandle_of_ne _ _ here]
                  exact ⟨slot, found, same⟩)
              exact ⟨dropped.trans (.trans (.of_kernel _ kernel _) tables), answers⟩

theorem registerBanks_copies {thread : ThreadId} {pattern points : ThreadPoints}
    (registered : List SlotHandle) (session : Session κ) (banks : List RegisterBank)
    (copied : Copies thread pattern points) :
    session.SameTables (registerBanks thread points registered session banks).2 ∧
      ∀ after, (registerBanks thread points registered session banks).1 = .ok after →
        Copies thread pattern after := by
  induction banks generalizing session points registered with
  | nil =>
      refine ⟨.refl session, fun after answered => ?_⟩
      cases answered
      exact copied
  | cons bank rest ih =>
      obtain ⟨tables, answers⟩ := registerSlots_copies bank registered session
        (points.table bank).occupied copied (fun entry member => by
          obtain ⟨index, slot⟩ := entry
          exact ⟨slot, (SlotTable.mem_occupied_iff.mp member).1, rfl⟩)
      unfold registerBanks
      split
      · next failed =>
          rw [failed] at tables
          refine ⟨tables, fun after answered => ?_⟩
          cases answered
      · next copies handles after answered =>
          rw [answered] at tables
          have next := answers copies handles (congrArg Prod.fst answered)
          obtain ⟨more, final⟩ := ih handles after next
          exact ⟨tables.trans more, final⟩

inductive Equips (caps : Capabilities) (session : Session κ) (thread : ThreadId)
    (pattern : Option ThreadPoints) : Outcome κ Unit → Prop where
  | refused {error : PointError} {after : Session κ} (tables : session.SameTables after) :
      Equips caps session thread pattern (.error error, after)
  | bare {after : Session κ} (tables : session.SameTables after)
      (nothing : pattern = none ∨ caps.interface = .unavailable) :
      Equips caps session thread pattern (.ok (), after)
  | copied {before : Session κ} {model points : ThreadPoints} (tables : session.SameTables before)
      (given : pattern = some model) (copied : Copies thread model points) :
      Equips caps session thread pattern
        (.ok (), { before with sets := before.sets.insert points })

omit [Kernel κ] in
theorem copies_inherit (thread : ThreadId) (pattern : ThreadPoints) :
    Copies thread pattern (.inherit thread pattern) :=
  ⟨rfl, fun bank => ThreadPoints.table_inherit thread pattern bank ▸ .refl _⟩

theorem replicate_copies (session : Session κ) (thread : ThreadId) (pattern : ThreadPoints) :
    session.SameTables (session.replicate thread pattern).2 ∧
      ∀ points, (session.replicate thread pattern).1 = .ok points →
        Copies thread pattern points := by
  unfold replicate
  split
  · refine ⟨.of_kernel session _ _, fun points answered => ?_⟩
    cases answered
  · next kernel paused =>
      obtain ⟨tables, answers⟩ := registerBanks_copies [] { session with kernel } RegisterBank.all
        (copies_inherit thread pattern)
      exact ⟨.trans (.of_kernel session kernel _) tables, answers⟩

theorem legacy_sameTables (session : Session κ) (thread : ThreadId) :
    session.SameTables
      (match Kernel.writeLegacy session.kernel thread session.legacyValue with
      | (.ok (), kernel) => { session with kernel }
      | (.error cause, kernel) => { session with kernel }.notify (.legacyNotCopied thread cause)) := by
  split <;> exact .of_kernel session _ _

/-- Where nothing can be used, a thread is given nothing. -/
theorem equip_of_unavailable {caps : Capabilities} (unavailable : caps.interface = .unavailable)
    {session : Session κ} {thread : ThreadId} {pattern : Option ThreadPoints} :
    equip caps session thread pattern = (.ok (), session) := by
  cases pattern <;> simp only [equip, unavailable]

theorem equips (caps : Capabilities) (session : Session κ) (thread : ThreadId)
    (pattern : Option ThreadPoints) :
    Equips caps session thread pattern (equip caps session thread pattern) := by
  cases interface : caps.interface with
  | registerArray =>
      cases pattern with
      | none =>
          simp only [equip, interface]
          exact .bare (.refl session) (.inl rfl)
      | some model =>
          simp only [equip, interface]
          refine .copied (.refl session) rfl ⟨rfl, fun bank => ?_⟩
          rw [ThreadPoints.table_markAllDirty, ThreadPoints.table_inherit]
          exact .refl _
  | handles =>
      cases pattern with
      | none =>
          simp only [equip, interface]
          exact .bare (.refl session) (.inl rfl)
      | some model =>
          simp only [equip, interface]
          obtain ⟨tables, answers⟩ := replicate_copies session thread model
          split
          · next failed =>
              rw [failed] at tables
              exact .refused tables
          · next points after copied =>
              rw [copied] at tables
              exact .copied tables rfl (answers points (congrArg Prod.fst copied))
  | legacy =>
      have copied := legacy_sameTables session thread
      simp only [equip, interface]
      split
      · exact .bare copied (.inl rfl)
      · exact .copied copied rfl (copies_inherit thread _)
  | unavailable =>
      rw [equip_of_unavailable interface]
      exact .bare (.refl session) (.inr interface)

def announce (session : Session κ) (thread : ThreadId) : Session κ :=
  session.capabilities.2.notify
    (.newThread thread ((session.pattern? thread).map ThreadPoints.thread))

/-- A thread that is taken up is given the points of another, each under a handle of
its own. -/
structure TakesOver (session : Session κ) (thread : ThreadId) : Prop where
  handles : session.capabilities.1.interface = .handles
  given : (session.pattern? thread).isSome

theorem addThread_eq (session : Session κ) (thread : ThreadId) :
    session.addThread thread =
      match equip session.capabilities.1 (session.announce thread) thread
        (session.pattern? thread) with
      | (.error error, session) => (.error error, session)
      | (.ok (), session) => (.ok (), (session.follow thread).showRegisters "new thread") :=
  rfl

omit [Kernel κ] in
theorem kernel_follow_showRegisters (session : Session κ) (thread : ThreadId) (operation : String) :
    ((session.follow thread).showRegisters operation).kernel = session.kernel := by
  unfold showRegisters follow
  split <;> split <;> rfl

omit [Kernel κ] in
theorem sets_follow_showRegisters (session : Session κ) (thread : ThreadId) (operation : String) :
    ((session.follow thread).showRegisters operation).sets = session.sets := by
  unfold showRegisters follow
  split <;> split <;> rfl

omit [Kernel κ] in
theorem kernel_showRegisters (session : Session κ) (operation : String) :
    (session.showRegisters operation).kernel = session.kernel := by
  unfold showRegisters
  split <;> rfl

omit [Kernel κ] in
theorem sameTables_showRegisters (session : Session κ) (operation : String) :
    session.SameTables (session.showRegisters operation) := by
  unfold showRegisters
  split
  · exact .of_kernel session _ _
  · exact .refl session

omit [Kernel κ] in
theorem mem_of_pattern? {session : Session κ} {thread : ThreadId} {model : ThreadPoints}
    (given : session.pattern? thread = some model) : model ∈ session.sets.toList :=
  List.mem_of_getLast? (Option.filter_eq_some_iff.mp given).1

inductive Arrives (session : Session κ) (thread : ThreadId) : Outcome κ Unit → Prop where
  | refused {error : PointError} {after : Session κ}
      (tables : session.capabilities.2.SameTables after) : Arrives session thread (.error error, after)
  | bare {before after : Session κ} (tables : session.capabilities.2.SameTables before)
      (nothing : session.pattern? thread = none ∨ session.capabilities.1.interface = .unavailable)
      (followed : (before.follow thread).SameTables after) : Arrives session thread (.ok (), after)
  | copied {before after : Session κ} {model points : ThreadPoints}
      (tables : session.capabilities.2.SameTables before)
      (given : session.pattern? thread = some model) (copied : Copies thread model points)
      (followed :
        (Session.follow { before with sets := before.sets.insert points } thread).SameTables after) :
      Arrives session thread (.ok (), after)

theorem arrives (session : Session κ) (thread : ThreadId) :
    session.Arrives thread (session.addThread thread) := by
  have announced : session.capabilities.2.SameTables (session.announce thread) := .of_kernel _ _ _
  have equipped := equips session.capabilities.1 (session.announce thread) thread
    (session.pattern? thread)
  rw [addThread_eq]
  generalize equip session.capabilities.1 (session.announce thread) thread
    (session.pattern? thread) = outcome at equipped
  cases equipped with
  | refused tables => exact .refused (announced.trans tables)
  | bare tables nothing =>
      exact .bare (announced.trans tables) nothing (sameTables_showRegisters _ _)
  | copied tables given copies =>
      exact .copied (announced.trans tables) given copies (sameTables_showRegisters _ _)

omit [Kernel κ] in
theorem follow_basis (session : Session κ) (thread : ThreadId) :
    session.SameBasis (session.follow thread) := by
  unfold follow
  split <;> exact ⟨rfl, rfl, rfl, rfl⟩

theorem addThread_basis (session : Session κ) (thread : ThreadId) :
    session.capabilities.2.SameBasis (session.addThread thread).2 := by
  have arrived := arrives session thread
  generalize session.addThread thread = outcome at arrived
  cases arrived with
  | refused tables => exact tables.sameBasis
  | @bare before _ tables nothing followed =>
      exact (tables.sameBasis.trans (follow_basis before thread)).trans followed.sameBasis
  | @copied before _ model points tables given copies followed =>
      have basis := follow_basis { before with sets := before.sets.insert points } thread
      exact tables.sameBasis.trans (.trans ⟨basis.settings, basis.capabilities?, basis.leader,
        basis.table⟩ followed.sameBasis)

def forget (session : Session κ) (thread : ThreadId) : Session κ :=
  { session with
    threads := session.threads.filter (· ≠ thread)
    sets := session.sets.erase thread }

omit [Kernel κ] in
theorem erase_of_absent {sets : ThreadSets} {thread : ThreadId}
    (absent : sets.get? thread = none) : sets.erase thread = sets := by
  obtain ⟨members⟩ := sets
  have missing : ∀ points ∈ members, ¬points.thread = thread := by
    simpa [ThreadSets.get?] using absent
  unfold ThreadSets.erase
  congr 1
  exact List.filter_eq_self.mpr fun points member => by simpa using missing points member

/-- What exits is forgotten, and registrations of it may be dropped. -/
theorem removeThread_eq (session : Session κ) (thread : ThreadId) :
    ∃ handles notices, session.removeThread thread =
      { dropRegistrations (.exitNotReleased thread) (session.forget thread) thread handles with
        notices } := by
  unfold removeThread
  dsimp only
  split
  · next absent =>
      refine ⟨[], session.notices, ?_⟩
      simp only [dropRegistrations, forget, erase_of_absent absent]
  · next points found => exact ⟨_, _, rfl⟩

theorem removeThread_sameTables (session : Session κ) (thread : ThreadId) :
    (session.forget thread).SameTables (session.removeThread thread) := by
  obtain ⟨handles, notices, removed⟩ := removeThread_eq session thread
  have dropped := dropRegistrations_sameTables (.exitNotReleased thread) (session.forget thread)
    thread handles
  rw [removed]
  exact dropped.trans (.of_kernel _ _ _)

end Session

end DebugRegisters
