import DebugRegisters.Proofs.Encoding.Masked
import DebugRegisters.Proofs.Session.Agreement
import DebugRegisters.Proofs.Session.Coverage
import DebugRegisters.Proofs.Session.LateRestriction
import DebugRegisters.Proofs.Session.Steady

/-!
# Tables that conform to a rule

With register arrays, the tables of all threads hold only watchpoints that keep to
what encoding and restricting uphold. There are three ways for a point into a table,
and all of them do: new points are encoded under the restriction, those that are
there when it sets in are restricted, and a new thread copies tables. That the
restriction in force permits the point is one such rule.
-/

set_option autoImplicit false

namespace DebugRegisters

namespace SlotTable

structure Conforms (permits : EncodedPoint → Prop) (bank : RegisterBank) (capacity : Nat)
    (table : SlotTable) : Prop where
  kept : table.IsKept bank
  sized : table.capacity = capacity
  permitted : bank = .watchpoints → ∀ point ∈ table.contents, permits point

section Conforms

variable {permits : EncodedPoint → Prop} {bank : RegisterBank} {capacity : Nat}
  {table other : SlotTable}

theorem conforms_empty (permits : EncodedPoint → Prop) (bank : RegisterBank) (capacity : Nat) :
    (empty bank capacity).Conforms permits bank capacity where
  kept := isKept_empty bank capacity
  sized := capacity_empty bank capacity
  permitted _ point member := by
    rw [contents_empty] at member
    exact absurd member (Multiset.notMem_zero point)

theorem Conforms.permitted_of_slot (conforms : table.Conforms permits .watchpoints capacity)
    {slot : Slot} (there : slot ∈ table.slots) {point : EncodedPoint}
    (holds : slot.point = some point) : permits point := by
  apply conforms.permitted rfl
  rw [mem_contents_iff]
  exact ⟨slot, there, holds, conforms.kept.isCounted.references_pos there holds⟩

theorem Conforms.samePoints (conforms : table.Conforms permits bank capacity)
    (same : table.SamePoints other) : other.Conforms permits bank capacity where
  kept := same.kept bank conforms.kept
  sized := by
    have sizes := congrArg List.length same.points
    rw [List.length_map, List.length_map] at sizes
    exact Eq.trans sizes conforms.sized
  permitted watch point member := conforms.permitted watch point (same.contents ▸ member)

theorem Conforms.addTo (conforms : table.Conforms permits bank capacity) {point : EncodedPoint}
    (permitted : point.kind.bank = .watchpoints → permits point) :
    (table.addTo bank point).Conforms permits bank capacity := by
  unfold SlotTable.addTo
  split
  · next sorted =>
      have inserted := inserts table point () fun state _ => (.ok none, state)
      have sized : (table.add point).2.capacity = table.capacity := capacity_insertWith _ _ _
      unfold add at sized ⊢
      dsimp only at sized ⊢
      generalize table.insertWith point () (fun state _ => (.ok none, state)) = outcome
        at inserted sized
      obtain ⟨result, after, side⟩ := outcome
      refine ⟨inserted.isKept conforms.kept sorted, sized.trans conforms.sized, ?_⟩
      intro watch held member
      cases result with
      | error error =>
          cases inserted with
          | full | refused => exact conforms.permitted watch held member
      | ok insertion =>
          rw [inserted.contents] at member
          rcases Multiset.mem_cons.mp member with rfl | before
          · exact permitted (sorted.trans watch)
          · exact conforms.permitted watch held before
  · exact conforms

theorem Conforms.dropFrom (conforms : table.Conforms permits bank capacity)
    (point : EncodedPoint) : (table.dropFrom bank point).Conforms permits bank capacity := by
  unfold SlotTable.dropFrom
  split
  · obtain ⟨kept, counted⟩ := @drop_contents bank table point conforms.kept
    have sized : (table.drop point).2.capacity = table.capacity := capacity_removeWith _ _ _
    refine ⟨kept, sized.trans conforms.sized, fun watch held member => ?_⟩
    refine conforms.permitted watch held ?_
    rw [counted]
    exact Multiset.mem_add.mpr (.inl member)
  · exact conforms

theorem Conforms.foldl_addTo (conforms : table.Conforms permits bank capacity)
    {points : List EncodedPoint}
    (permitted : ∀ point ∈ points, point.kind.bank = .watchpoints → permits point) :
    (points.foldl (SlotTable.addTo bank) table).Conforms permits bank capacity := by
  induction points generalizing table with
  | nil => exact conforms
  | cons point rest ih =>
      exact ih (conforms.addTo (permitted point List.mem_cons_self)) fun other member =>
        permitted other (List.mem_cons_of_mem _ member)

theorem Conforms.foldl_dropFrom (conforms : table.Conforms permits bank capacity)
    (points : List EncodedPoint) :
    (points.foldl (SlotTable.dropFrom bank) table).Conforms permits bank capacity := by
  induction points generalizing table with
  | nil => exact conforms
  | cons point rest ih => exact ih (conforms.dropFrom point)

/-- Going over to the mask table keeps to a rule that restricting upholds. -/
theorem Conforms.restrictSlots {asked : PointRequest → Prop}
    {rule : Restriction → EncodedPoint → Prop} (upholds : Encoding.Upholds asked rule)
    {restriction : Restriction}
    (conforms : table.Conforms (rule restriction) bank capacity)
    (valid : restriction.table.IsValid) :
    (restriction.table.restrictSlots bank table).Conforms
      (rule { restriction with state := .degraded }) bank capacity := by
  cases bank with
  | breakpoints => exact ⟨conforms.kept, conforms.sized, nofun⟩
  | watchpoints =>
      have kinds : ∀ point, (restriction.table.restrict point).kind = point.kind := fun point => by
        obtain ⟨span, same⟩ := restriction.table.restrict_eq point
        rw [same]
      refine ⟨conforms.kept.mapPoints kinds, (capacity_mapPoints _ _).trans conforms.sized, ?_⟩
      intro _ point member
      change point ∈ (table.mapPoints restriction.table.restrict).1.contents at member
      rw [contents_mapPoints] at member
      obtain ⟨before, listed, rfl⟩ := Multiset.mem_map.mp member
      exact upholds.restricted valid (conforms.permitted rfl before listed)

/-- A kernel that takes the masks of the mask table takes a table that conforms to
the restriction to it. -/
theorem Conforms.accepted {restriction : Restriction}
    (conforms : table.Conforms restriction.Permits bank capacity) {kernel : SimulatedKernel}
    (masks : kernel.maskTable = some restriction.table) (degraded : restriction.state = .degraded) :
    kernel.rejects bank table.registerBlock = false := by
  unfold SimulatedKernel.rejects
  rw [masks]
  cases bank with
  | breakpoints => rfl
  | watchpoints =>
      dsimp only
      rw [List.any_eq_false]
      intro pair member
      obtain ⟨index, found⟩ := List.mem_iff_getElem?.mp member
      cases enabled : pair.isEnabled with
      | false => simp
      | true =>
          have armed : (index, pair) ∈ table.registerBlock.enabled :=
            Arm.RegisterBlock.mem_enabled_iff.mpr ⟨found, enabled⟩
          obtain ⟨point, mask, held, masked, same⟩ := point_of_armed conforms.kept armed
          obtain ⟨other, also, inside⟩ := conforms.permitted rfl point held
          rw [masked] at also
          cases also
          change pair = _ at same
          simp [same, Arm.ControlWord.mask_encode, inside degraded]

end Conforms

end SlotTable

namespace Session

/-- The restriction is to the given masks, and all tables conform to the rule. -/
structure ConformingTo {κ : Type} (rule : Restriction → EncodedPoint → Prop) (masks : MaskTable)
    (caps : Capabilities) (session : Session κ) : Prop where
  sound : session.Sound
  table : session.restriction.table = masks
  conforms : ∀ thread bank,
    (session.tableOf caps thread bank).Conforms (rule session.restriction) bank (caps.slots bank)

namespace ConformingTo

variable {asked : PointRequest → Prop} {rule : Restriction → EncodedPoint → Prop}

section Steps

variable {κ : Type} {masks : MaskTable} {caps : Capabilities} {session after : Session κ}

theorem change (conforming : session.ConformingTo rule masks caps) (sound : after.Sound)
    (restriction : after.restriction = session.restriction)
    (tables : after.tableOf caps = session.tableOf caps) : after.ConformingTo rule masks caps where
  sound
  table := restriction ▸ conforming.table
  conforms thread bank := restriction ▸ tables ▸ conforming.conforms thread bank

theorem congr (conforming : session.ConformingTo rule masks caps) (sets : after.sets = session.sets)
    (threads : after.threads = session.threads)
    (restriction : after.restriction = session.restriction) : after.ConformingTo rule masks caps :=
  conforming.change (conforming.sound.congr sets threads) restriction (tableOf_congr sets caps)

/-- Tracked threads need to be looked at only, as the others have no points. -/
theorem edit (conforming : session.ConformingTo rule masks caps) (sound : after.Sound)
    (restriction : after.restriction = session.restriction)
    (edited : ∀ thread ∈ after.threads, ∀ bank,
      (after.tableOf caps thread bank).Conforms (rule session.restriction) bank (caps.slots bank)) :
    after.ConformingTo rule masks caps where
  sound
  table := restriction ▸ conforming.table
  conforms thread bank := by
    rw [restriction]
    by_cases tracked : thread ∈ after.threads
    · exact edited thread tracked bank
    · rw [tableOf_of_none (sound.get?_of_untracked tracked)]
      exact SlotTable.conforms_empty _ bank _

theorem keptByResuming (upholds : Encoding.Upholds asked rule) (valid : masks.IsValid)
    (caps : Capabilities) :
    KeptByResuming fun session : Session κ => session.ConformingTo rule masks caps where
  call conforming _ := conforming.congr rfl rfl rfl
  markWritten conforming thread bank :=
    conforming.change (conforming.sound.markWritten thread bank) rfl
      (tableOf_markWritten _ caps thread bank)
  restrictTo {session} conforming _ := by
    have lawful : session.restriction.table.IsValid := conforming.table.symm ▸ valid
    refine ⟨conforming.sound.restrictTo _, ?_, fun thread bank => ?_⟩
    · rw [restriction_restrictTo]
      exact conforming.table
    · rw [restriction_restrictTo, tableOf_restrictTo]
      exact (conforming.conforms thread bank).restrictSlots upholds lawful

theorem forget (conforming : session.ConformingTo rule masks caps) (thread : ThreadId) :
    (session.forget thread).ConformingTo rule masks caps where
  sound := conforming.sound.forget thread
  table := conforming.table
  conforms other bank := by
    rcases tableOf_forget session thread other caps bank with empty | same
    · exact empty ▸ SlotTable.conforms_empty _ bank _
    · exact same ▸ conforming.conforms other bank

end Steps

section Operations

variable {masks : MaskTable} {breakpoints watchpoints : UInt32} {session : Session SimulatedKernel}

theorem insertDemand (upholds : Encoding.Upholds asked rule) (valid : masks.IsValid)
    (supported : (Facility.arrays breakpoints watchpoints).Supports session.capabilities.1)
    (conforming : session.capabilities.2.ConformingTo rule masks session.capabilities.1)
    {demand : Demand} (asks : ∀ request, demand = .plain request → asked request) :
    (session.insertDemand demand).2.ConformingTo rule masks session.capabilities.1 := by
  have process := insertDemand_sameProcess session demand
  have before : session.Sound := conforming.sound.congr rfl rfl
  have sound := keptByEvents_sound.insertDemand before demand
  have lawful : session.restriction.table.IsValid := conforming.table.symm ▸ valid
  rcases tableOf_insertDemand supported.deferred conforming.sound demand with
    same | ⟨points, serves, added⟩
  · exact conforming.change sound process.restriction same
  · refine conforming.edit sound process.restriction fun thread tracked bank => ?_
    rw [added thread (process.threads ▸ tracked)]
    refine (conforming.conforms thread bank).foldl_addTo fun point member watch => ?_
    obtain ⟨architecture, first, second, request, found, plain, encoded⟩ :=
      encoded_of_serves (fun available => supported.words_of_arrays
        (supported.deferred.resolve_right available)) serves
    rw [found] at encoded
    have kind := (plain_encode encoded).kinds point member
    exact upholds.encoded lawful (asks request plain) encoded
      (PointKind.isWatchpoint_of_bank (kind ▸ watch)) point member

theorem removeDemand
    (supported : (Facility.arrays breakpoints watchpoints).Supports session.capabilities.1)
    (conforming : session.capabilities.2.ConformingTo rule masks session.capabilities.1)
    (demand : Demand) :
    (session.removeDemand demand).2.ConformingTo rule masks session.capabilities.1 := by
  have process := removeDemand_sameProcess session demand
  have before : session.Sound := conforming.sound.congr rfl rfl
  have sound := keptByEvents_sound.removeDemand before demand
  obtain ⟨points, dropped⟩ := tableOf_removeDemand supported.deferred conforming.sound demand
  refine conforming.edit sound process.restriction fun thread tracked bank => ?_
  rw [dropped thread (process.threads ▸ tracked)]
  exact (conforming.conforms thread bank).foldl_dropFrom points

theorem addThread
    (conforming : session.capabilities.2.ConformingTo rule masks session.capabilities.1)
    (thread : ThreadId) :
    (session.addThread thread).2.ConformingTo rule masks session.capabilities.1 where
  sound := conforming.sound.addThread thread
  table := restriction_addThread session thread ▸ conforming.table
  conforms other bank := by
    rw [restriction_addThread]
    obtain ⟨model, same⟩ := tableOf_addThread conforming.sound thread other bank
    exact (conforming.conforms model bank).samePoints same

/-- With register arrays, nothing but insertion brings a point into a table that breaks a
rule which encoding and restricting uphold. -/
theorem keptByOtherOperations (upholds : Encoding.Upholds asked rule) (valid : masks.IsValid)
    (breakpoints watchpoints : UInt32) :
    KeptByOtherOperations (.arrays breakpoints watchpoints) (ConformingTo rule masks) where
  congr conforming sets threads restriction := conforming.congr sets threads restriction
  removeDemand supported conforming demand := conforming.removeDemand supported demand
  addThread _ conforming thread := conforming.addThread thread
  prepareToResume _ conforming thread :=
    (keptByResuming upholds valid _).prepareToResume conforming thread
  forget _ conforming thread := conforming.forget thread

end Operations

theorem start {κ : Type} (kernel : κ) (leader : ThreadId) (settings : Settings)
    (capabilities? : Option Capabilities) (caps : Capabilities) :
    (Session.start kernel leader settings capabilities?).ConformingTo rule settings.maskTable
      caps where
  sound := sound_start kernel leader settings capabilities?
  table := rfl
  conforms thread bank := by
    rw [tableOf_of_none rfl]
    exact SlotTable.conforms_empty _ bank _

/-- A rule that encoding and restricting uphold is kept to in every session that events
lead to, if no other watches are inserted than those that are asked for. -/
theorem holdsOn_of_leads_asking (upholds : Encoding.Upholds asked rule) {kernel : SimulatedKernel}
    {breakpoints watchpoints : UInt32} {leader : ThreadId} {settings : Settings}
    {capabilities? : Option Capabilities} (valid : settings.maskTable.IsValid)
    (arrays : kernel.facility = .arrays breakpoints watchpoints)
    (preset : ∀ caps, capabilities? = some caps → kernel.facility.Supports caps)
    {allowed : History → Event → Prop}
    (asks : ∀ {history request}, allowed history (.insert (.plain request)) → asked request)
    {history : History}
    (reached : History.Leads allowed (.ofSession (.start kernel leader settings capabilities?))
      history) :
    history.session.HoldsOn (.arrays breakpoints watchpoints)
      (ConformingTo rule settings.maskTable) := by
  have principle := keptByOtherOperations upholds valid breakpoints watchpoints
  refine reached.keptBesidesInsertion principle.keptBesidesInsertion (fun permitted all => ?_)
    ⟨arrays, preset, fun caps _ _ => start kernel leader settings capabilities? caps⟩
  refine all.insertDemand
    ((principle.probed all).insertDemand upholds valid all.supported fun request plain => ?_)
  exact asks (plain ▸ permitted)

theorem holdsOn_of_leads (upholds : Encoding.Upholds (fun _ => True) rule)
    {kernel : SimulatedKernel} {breakpoints watchpoints : UInt32} {leader : ThreadId}
    {settings : Settings} {capabilities? : Option Capabilities}
    (valid : settings.maskTable.IsValid)
    (arrays : kernel.facility = .arrays breakpoints watchpoints)
    (preset : ∀ caps, capabilities? = some caps → kernel.facility.Supports caps)
    {allowed : History → Event → Prop} {history : History}
    (reached : History.Leads allowed (.ofSession (.start kernel leader settings capabilities?))
      history) :
    history.session.HoldsOn (.arrays breakpoints watchpoints)
      (ConformingTo rule settings.maskTable) :=
  holdsOn_of_leads_asking upholds valid arrays preset (fun _ => trivial) reached

end ConformingTo

abbrev Conforming {κ : Type} (masks : MaskTable) (caps : Capabilities) (session : Session κ) :
    Prop :=
  session.ConformingTo Restriction.Permits masks caps

namespace Conforming

variable {masks : MaskTable}

theorem keptByResuming {κ : Type} (valid : masks.IsValid) (caps : Capabilities) :
    KeptByResuming fun session : Session κ => session.Conforming masks caps :=
  ConformingTo.keptByResuming Encoding.upholds_permits valid caps

/-- With register arrays, no event brings a point into a table that the restriction
does not permit. -/
theorem keptByOperations (valid : masks.IsValid) (breakpoints watchpoints : UInt32) :
    KeptByOperations (.arrays breakpoints watchpoints) (Conforming masks) where
  toKeptByOtherOperations :=
    ConformingTo.keptByOtherOperations Encoding.upholds_permits valid breakpoints watchpoints
  insertDemand supported conforming _ :=
    conforming.insertDemand Encoding.upholds_permits valid supported fun _ _ => trivial

theorem start {κ : Type} (kernel : κ) (leader : ThreadId) (settings : Settings)
    (capabilities? : Option Capabilities) (caps : Capabilities) :
    (Session.start kernel leader settings capabilities?).Conforming settings.maskTable caps :=
  ConformingTo.start kernel leader settings capabilities? caps

end Conforming

end Session

end DebugRegisters
