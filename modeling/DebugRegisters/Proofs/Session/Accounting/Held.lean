import DebugRegisters.Proofs.Session.Preservation
import DebugRegisters.Proofs.ThreadPoints.Sets

/-!
# What a thread holds

The points of a thread, over both banks, as often as they are referred to.
Installing a point adds it once on its thread and giving it up takes it away
once; where either fails nothing changes. This needs tables in good order: every
set belongs to a tracked thread and is found under it, and every slot in use
holds a point of its bank.
-/

set_option autoImplicit false

namespace DebugRegisters

namespace ThreadPoints

def contents (points : ThreadPoints) : Multiset EncodedPoint :=
  (points.table .breakpoints).contents + (points.table .watchpoints).contents

def IsKept (points : ThreadPoints) : Prop :=
  ∀ bank, (points.table bank).IsKept bank

variable {points : ThreadPoints}

theorem contents_empty (thread : ThreadId) (caps : Capabilities) :
    (ThreadPoints.empty thread caps).contents = 0 := by
  have nothing : ∀ bank, ((ThreadPoints.empty thread caps).table bank).contents = 0 := by
    intro bank
    cases bank <;> exact SlotTable.contents_empty _ _
  rw [contents, nothing, nothing, add_zero]

theorem isKept_empty (thread : ThreadId) (caps : Capabilities) :
    (ThreadPoints.empty thread caps).IsKept := by
  intro bank
  cases bank <;> exact SlotTable.isKept_empty _ _

theorem IsKept.setTable (kept : points.IsKept) {bank : RegisterBank} {table : SlotTable}
    (tableKept : table.IsKept bank) : (points.setTable bank table).IsKept := by
  intro other
  by_cases here : other = bank
  · subst here
    rwa [table_setTable_self]
  · rw [table_setTable_of_ne _ _ here]
    exact kept other

theorem contents_setTable_cons {bank : RegisterBank} {table : SlotTable} {point : EncodedPoint}
    (gained : table.contents = point ::ₘ (points.table bank).contents) :
    (points.setTable bank table).contents = point ::ₘ points.contents := by
  unfold contents
  cases bank with
  | breakpoints =>
      rw [table_setTable_self, table_setTable_of_ne _ _ (by decide), gained, Multiset.cons_add]
  | watchpoints =>
      rw [table_setTable_self, table_setTable_of_ne _ _ (by decide), gained, Multiset.add_cons]

theorem contents_setTable_same {bank : RegisterBank} {table : SlotTable}
    (same : table.contents = (points.table bank).contents) :
    (points.setTable bank table).contents = points.contents := by
  unfold contents
  cases bank with
  | breakpoints => rw [table_setTable_self, table_setTable_of_ne _ _ (by decide), same]
  | watchpoints => rw [table_setTable_self, table_setTable_of_ne _ _ (by decide), same]

theorem setTable_setTable (points : ThreadPoints) (bank : RegisterBank) (first second : SlotTable) :
    (points.setTable bank first).setTable bank second = points.setTable bank second := by
  cases bank <;> rfl

theorem mem_contents_iff (kept : points.IsKept) {point : EncodedPoint} :
    point ∈ points.contents ↔ point ∈ (points.table point.kind.bank).contents := by
  have sorted : ∀ bank, point ∈ (points.table bank).contents → point.kind.bank = bank :=
    fun bank member => SlotTable.bank_of_mem_contents (kept bank) member
  unfold contents
  rw [Multiset.mem_add]
  constructor
  · rintro (member | member)
    · exact (sorted _ member).symm ▸ member
    · exact (sorted _ member).symm ▸ member
  · intro member
    cases bank : point.kind.bank with
    | breakpoints => exact .inl (bank ▸ member)
    | watchpoints => exact .inr (bank ▸ member)

theorem find?_isSome_iff (kept : points.IsKept) {point : EncodedPoint} :
    ((points.table point.kind.bank).find? point).isSome = true ↔ point ∈ points.contents := by
  rw [mem_contents_iff kept]
  exact SlotTable.find?_isSome_iff (kept point.kind.bank)

end ThreadPoints

namespace Session

variable {κ : Type}

/-- The points of a thread; a thread without a set has none. -/
def held (session : Session κ) (thread : ThreadId) : Multiset EncodedPoint :=
  match session.sets.get? thread with
  | none => 0
  | some points => points.contents

theorem held_eq (session : Session κ) (caps : Capabilities) (thread : ThreadId) :
    session.held thread = (session.pointsOf caps thread).contents := by
  unfold held pointsOf
  cases session.sets.get? thread with
  | none => exact (ThreadPoints.contents_empty thread caps).symm
  | some points => rfl

theorem held_of_get? {session : Session κ} {thread : ThreadId} {points : ThreadPoints}
    (found : session.sets.get? thread = some points) : session.held thread = points.contents := by
  simp [held, found]

theorem held_congr {session after : Session κ} (sets : after.sets = session.sets) :
    after.held = session.held := by
  funext thread
  simp only [held, sets]

/-- A change of one set that touches no point changes what no thread holds. -/
theorem held_update {change : ThreadPoints → ThreadPoints}
    (keeps : ∀ points, (change points).thread = points.thread)
    (same : ∀ points, (change points).contents = points.contents) (session : Session κ)
    (thread : ThreadId) :
    held { session with sets := session.sets.update thread change } = session.held := by
  funext other
  unfold held
  dsimp only
  by_cases here : other = thread
  · subst here
    rw [ThreadSets.get?_update_self keeps]
    cases session.sets.get? other with
    | none => rfl
    | some points => exact same points
  · rw [ThreadSets.get?_update_of_ne keeps _ here]

structure Sound (session : Session κ) : Prop where
  kept : session.sets.All ThreadPoints.IsKept
  tracked : session.sets.All fun points => points.thread ∈ session.threads
  unique : (session.sets.toList.map ThreadPoints.thread).Nodup
  distinct : session.threads.Nodup

namespace Sound

variable {session after : Session κ}

theorem congr (sound : session.Sound) (sets : after.sets = session.sets)
    (threads : after.threads = session.threads) : after.Sound where
  kept := sets ▸ sound.kept
  tracked := by
    rw [sets, threads]
    exact sound.tracked
  unique := sets ▸ sound.unique
  distinct := threads ▸ sound.distinct

theorem get?_of_mem (sound : session.Sound) {points : ThreadPoints}
    (member : points ∈ session.sets.toList) :
    session.sets.get? points.thread = some points := by
  have unique := sound.unique
  unfold ThreadSets.get?
  revert member unique
  generalize session.sets.toList = sets
  intro member unique
  induction sets with
  | nil => cases member
  | cons first rest ih =>
      rw [List.map_cons, List.nodup_cons] at unique
      rcases List.mem_cons.mp member with rfl | later
      · simp
      · have different : first.thread ≠ points.thread := fun same =>
          unique.1 (same ▸ List.mem_map_of_mem later)
        rw [List.find?_cons_of_neg (by simpa using different)]
        exact ih later unique.2

theorem kept_pointsOf (sound : session.Sound) (caps : Capabilities) (thread : ThreadId) :
    (session.pointsOf caps thread).IsKept := by
  unfold pointsOf
  cases found : session.sets.get? thread with
  | none => exact ThreadPoints.isKept_empty thread caps
  | some points => exact sound.kept.get? found

theorem ensure (sound : session.Sound) {thread : ThreadId} (tracked : thread ∈ session.threads)
    (caps : Capabilities) : { session with sets := session.sets.ensure thread caps }.Sound where
  kept := sound.kept.ensure (ThreadPoints.isKept_empty thread caps)
  tracked := sound.tracked.ensure tracked
  unique := by
    have unique := sound.unique
    dsimp only
    unfold ThreadSets.ensure
    split
    · exact unique
    · next absent =>
        have missing : ∀ points ∈ session.sets.toList, ¬points.thread = thread := by
          simpa [ThreadSets.get?] using absent
        rw [List.map_append, List.nodup_append]
        refine ⟨unique, List.nodup_singleton _, fun other member last added same => ?_⟩
        obtain ⟨points, there, rfl⟩ := List.mem_map.mp member
        rw [List.map_singleton, List.mem_singleton] at added
        exact missing points there (same.trans added)
  distinct := sound.distinct

theorem update (sound : session.Sound) {thread : ThreadId} {change : ThreadPoints → ThreadPoints}
    (thread_change : ∀ points, (change points).thread = points.thread)
    (kept : ∀ points, points.thread = thread → points.IsKept → (change points).IsKept) :
    { session with sets := session.sets.update thread change }.Sound where
  kept := sound.kept.update kept
  tracked := sound.tracked.update fun points _ before => thread_change points ▸ before
  unique := by
    have same : (session.sets.update thread change).toList.map ThreadPoints.thread =
        session.sets.toList.map ThreadPoints.thread := by
      unfold ThreadSets.update
      rw [List.map_map]
      refine List.map_congr_left fun points _ => ?_
      dsimp only [Function.comp]
      split
      · exact thread_change points
      · rfl
    exact same ▸ sound.unique
  distinct := sound.distinct

theorem withTable (sound : session.Sound) (caps : Capabilities) {placement : Placement}
    (tracked : placement.thread ∈ session.threads) {table : SlotTable}
    (kept : table.IsKept placement.point.kind.bank) (side : KernelSide κ) :
    (session.withTable caps placement table side).Sound := by
  have updated := (sound.ensure tracked caps).update
    (fun points => ThreadPoints.thread_setTable points placement.point.kind.bank table)
    (fun points (_ : points.thread = placement.thread) before => before.setTable kept)
  exact updated.congr rfl rfl

theorem markSlot (sound : session.Sound) (placement : Placement) (index : Nat) :
    (session.markSlot placement index).Sound :=
  sound.update (fun points => ThreadPoints.thread_markDirty points _ index)
    fun points _ before bank => by
      rw [ThreadPoints.table_markDirty]
      exact before bank

end Sound

end Session

end DebugRegisters
