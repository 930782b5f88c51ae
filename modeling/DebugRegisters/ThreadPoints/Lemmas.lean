import DebugRegisters.SlotTable.Lemmas
import DebugRegisters.ThreadPoints

/-!
# What the operations on thread sets do

The sets are seen through `get?`, thread by thread. Changing, adding or dropping
the set of one thread is not seen on any other, and a set that is marked or
cleared keeps its tables.
-/

set_option autoImplicit false

namespace DebugRegisters

namespace ThreadPoints

@[simp] theorem table_setTable_self (points : ThreadPoints) (bank : RegisterBank)
    (table : SlotTable) : (points.setTable bank table).table bank = table := by
  simp [setTable, ThreadPoints.table]

@[simp] theorem table_setTable_of_ne (points : ThreadPoints) (table : SlotTable)
    {bank other : RegisterBank} (different : other ≠ bank) :
    (points.setTable bank table).table other = points.table other := by
  simp [setTable, ThreadPoints.table, different]

@[simp] theorem dirty_setTable (points : ThreadPoints) (bank other : RegisterBank)
    (table : SlotTable) : (points.setTable bank table).dirty other = points.dirty other := by
  cases bank <;> cases other <;> rfl

@[simp] theorem thread_setTable (points : ThreadPoints) (bank : RegisterBank)
    (table : SlotTable) : (points.setTable bank table).thread = points.thread :=
  thread_setBank _ _ _

@[simp] theorem table_markDirty (points : ThreadPoints) (bank other : RegisterBank) (index : Nat) :
    (points.markDirty bank index).table other = points.table other := by
  cases bank <;> cases other <;> rfl

@[simp] theorem thread_markDirty (points : ThreadPoints) (bank : RegisterBank) (index : Nat) :
    (points.markDirty bank index).thread = points.thread :=
  thread_setBank _ _ _

@[simp] theorem table_clearDirty (points : ThreadPoints) (bank other : RegisterBank) :
    (points.clearDirty bank).table other = points.table other := by
  cases bank <;> cases other <;> rfl

@[simp] theorem dirty_clearDirty_self (points : ThreadPoints) (bank : RegisterBank) :
    (points.clearDirty bank).dirty bank = 0 := by
  cases bank <;> rfl

@[simp] theorem thread_clearDirty (points : ThreadPoints) (bank : RegisterBank) :
    (points.clearDirty bank).thread = points.thread :=
  thread_setBank _ _ _

@[simp] theorem table_markAllDirty (points : ThreadPoints) (bank : RegisterBank) :
    points.markAllDirty.table bank = points.table bank := by
  cases bank <;> rfl

@[simp] theorem table_inherit (thread : ThreadId) (other : ThreadPoints) (bank : RegisterBank) :
    (inherit thread other).table bank = other.table bank := by
  cases bank <;> rfl

end ThreadPoints

namespace ThreadSets

/-- A set found under a thread belongs to it. -/
theorem thread_of_get? {sets : ThreadSets} {thread : ThreadId} {points : ThreadPoints}
    (found : sets.get? thread = some points) : points.thread = thread := by
  simpa using List.find?_some found

theorem mem_of_get? {sets : ThreadSets} {thread : ThreadId} {points : ThreadPoints}
    (found : sets.get? thread = some points) : points ∈ sets.toList :=
  List.mem_of_find?_eq_some found

section Update

variable {change : ThreadPoints → ThreadPoints}

/-- A change that keeps the thread is seen on that thread. -/
theorem get?_update_self (keeps : ∀ points, (change points).thread = points.thread)
    (sets : ThreadSets) (thread : ThreadId) :
    (sets.update thread change).get? thread = (sets.get? thread).map change := by
  obtain ⟨members⟩ := sets
  unfold update get?
  induction members with
  | nil => rfl
  | cons points rest ih =>
      by_cases same : points.thread = thread
      · simp [same, keeps]
      · simpa [List.find?_cons, same] using ih

theorem get?_update_of_ne (keeps : ∀ points, (change points).thread = points.thread)
    (sets : ThreadSets) {thread other : ThreadId} (different : other ≠ thread) :
    (sets.update thread change).get? other = sets.get? other := by
  obtain ⟨members⟩ := sets
  unfold update get?
  induction members with
  | nil => rfl
  | cons points rest ih =>
      by_cases same : points.thread = thread
      · have apart : points.thread ≠ other := fun equal => different (equal.symm.trans same)
        simpa [List.find?_cons, same, keeps, Ne.symm different] using ih
      · by_cases found : points.thread = other
        · simp [found, different]
        · simpa [List.find?_cons, same, found] using ih

/-- A change of every set is seen on every thread. -/
theorem get?_map (keeps : ∀ points, (change points).thread = points.thread) (sets : ThreadSets)
    (thread : ThreadId) : (sets.map change).get? thread = (sets.get? thread).map change := by
  obtain ⟨members⟩ := sets
  unfold map get?
  induction members with
  | nil => rfl
  | cons points rest ih =>
      by_cases same : points.thread = thread
      · simp [same, keeps]
      · rw [List.map_cons, List.find?_cons_of_neg (by simp [keeps, same]),
          List.find?_cons_of_neg (by simp [same])]
        exact ih

end Update

section Erase

@[simp] theorem get?_erase_self (sets : ThreadSets) (thread : ThreadId) :
    (sets.erase thread).get? thread = none := by
  simp [erase, get?]

@[simp] theorem get?_erase_of_ne (sets : ThreadSets) {thread other : ThreadId}
    (different : other ≠ thread) : (sets.erase thread).get? other = sets.get? other := by
  obtain ⟨members⟩ := sets
  unfold erase get?
  induction members with
  | nil => rfl
  | cons points rest ih =>
      by_cases same : points.thread = thread
      · simpa [List.find?_cons, same, Ne.symm different] using ih
      · by_cases found : points.thread = other
        · simp [found, different]
        · simpa [List.find?_cons, same, found] using ih

end Erase

@[simp] theorem get?_insert_self (sets : ThreadSets) (points : ThreadPoints) :
    (sets.insert points).get? points.thread = some points := by
  have absent : (sets.erase points.thread).get? points.thread = none := get?_erase_self _ _
  unfold get? at absent
  simp [insert, get?, List.find?_append, absent]

theorem get?_insert_of_ne (sets : ThreadSets) (points : ThreadPoints) {other : ThreadId}
    (different : other ≠ points.thread) : (sets.insert points).get? other = sets.get? other := by
  have kept : (sets.erase points.thread).get? other = sets.get? other :=
    get?_erase_of_ne sets different
  unfold get? at kept
  simp [insert, get?, List.find?_append, kept, Ne.symm different]

end ThreadSets

end DebugRegisters
