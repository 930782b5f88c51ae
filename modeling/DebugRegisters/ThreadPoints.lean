import DebugRegisters.Capabilities
import DebugRegisters.SlotTable

/-!
# The points of a thread

For each thread a table for either bank, and for either bank a map of the slots
that changed since the bank was last written. The map has a bit for each of the
first 64 slots; only kernels with register arrays use it, and they have fewer.

The sets of all threads are kept in the order in which they were made. The one
made last is the pattern for threads that appear later.
-/

set_option autoImplicit false

namespace DebugRegisters

/-- A bank of a thread: its slots, and the slots whose change is not written yet. -/
structure BankPoints where
  table : SlotTable
  dirty : UInt64
  deriving DecidableEq, Repr

structure ThreadPoints where
  thread : ThreadId
  breakpoints : BankPoints
  watchpoints : BankPoints
  deriving DecidableEq, Repr

namespace ThreadPoints

def empty (thread : ThreadId) (caps : Capabilities) : ThreadPoints where
  thread
  breakpoints := ⟨.empty .breakpoints caps.breakpointSlots, 0⟩
  watchpoints := ⟨.empty .watchpoints caps.watchpointSlots, 0⟩

/-- The slots of `other` for a new thread, with nothing marked as changed. The
handles still belong to the thread of `other`. -/
def inherit (thread : ThreadId) (other : ThreadPoints) : ThreadPoints where
  thread
  breakpoints := ⟨other.breakpoints.table, 0⟩
  watchpoints := ⟨other.watchpoints.table, 0⟩

def bank (points : ThreadPoints) : RegisterBank → BankPoints
  | .breakpoints => points.breakpoints
  | .watchpoints => points.watchpoints

def table (points : ThreadPoints) (bank : RegisterBank) : SlotTable :=
  (points.bank bank).table

def dirty (points : ThreadPoints) (bank : RegisterBank) : UInt64 :=
  (points.bank bank).dirty

def setBank (points : ThreadPoints) (contents : BankPoints) : RegisterBank → ThreadPoints
  | .breakpoints => { points with breakpoints := contents }
  | .watchpoints => { points with watchpoints := contents }

def setTable (points : ThreadPoints) (bank : RegisterBank) (table : SlotTable) : ThreadPoints :=
  points.setBank ⟨table, points.dirty bank⟩ bank

def isEmpty (points : ThreadPoints) : Bool :=
  points.breakpoints.table.isEmpty && points.watchpoints.table.isEmpty

def markDirty (points : ThreadPoints) (bank : RegisterBank) (index : Nat) : ThreadPoints :=
  points.setBank ⟨points.table bank, points.dirty bank ||| Word.shiftLeft 1 index⟩ bank

def markAllDirty (points : ThreadPoints) : ThreadPoints :=
  { points with
    breakpoints.dirty := Word.lowBits points.breakpoints.table.capacity
    watchpoints.dirty := Word.lowBits points.watchpoints.table.capacity }

def clearDirty (points : ThreadPoints) (bank : RegisterBank) : ThreadPoints :=
  points.setBank ⟨points.table bank, 0⟩ bank

@[simp] theorem bank_setBank_self (points : ThreadPoints) (contents : BankPoints)
    (bank : RegisterBank) : (points.setBank contents bank).bank bank = contents := by
  cases bank <;> rfl

@[simp] theorem bank_setBank_of_ne (points : ThreadPoints) (contents : BankPoints)
    {bank other : RegisterBank} (different : other ≠ bank) :
    (points.setBank contents bank).bank other = points.bank other := by
  cases bank <;> cases other <;> first | rfl | exact absurd rfl different

@[simp] theorem thread_setBank (points : ThreadPoints) (contents : BankPoints)
    (bank : RegisterBank) : (points.setBank contents bank).thread = points.thread := by
  cases bank <;> rfl

def text (points : ThreadPoints) : String :=
  s!"thread {points.thread} (dirty bp=" ++ Hexadecimal.text points.breakpoints.dirty.toNat ++
    ", wp=" ++ Hexadecimal.text points.watchpoints.dirty.toNat ++
    s!"):\n{points.breakpoints.table}{points.watchpoints.table}"

instance : ToString ThreadPoints := ⟨text⟩

end ThreadPoints

/-- The sets of all threads, oldest first. -/
structure ThreadSets where
  toList : List ThreadPoints
  deriving DecidableEq, Repr

namespace ThreadSets

def empty : ThreadSets := ⟨[]⟩

def get? (sets : ThreadSets) (thread : ThreadId) : Option ThreadPoints :=
  sets.toList.find? fun points => points.thread = thread

def size (sets : ThreadSets) : Nat :=
  sets.toList.length

def isEmpty (sets : ThreadSets) : Bool :=
  sets.toList.isEmpty

def last? (sets : ThreadSets) : Option ThreadPoints :=
  sets.toList.getLast?

def ensure (sets : ThreadSets) (thread : ThreadId) (caps : Capabilities) : ThreadSets :=
  if (sets.get? thread).isSome then sets else ⟨sets.toList ++ [.empty thread caps]⟩

/-- Changes the set of a thread, if it has one, and keeps its place. -/
def update (sets : ThreadSets) (thread : ThreadId) (change : ThreadPoints → ThreadPoints) :
    ThreadSets :=
  ⟨sets.toList.map fun points => if points.thread = thread then change points else points⟩

def map (sets : ThreadSets) (change : ThreadPoints → ThreadPoints) : ThreadSets :=
  ⟨sets.toList.map change⟩

def erase (sets : ThreadSets) (thread : ThreadId) : ThreadSets :=
  ⟨sets.toList.filter fun points => points.thread ≠ thread⟩

/-- Adds a set at the end, in place of any set that its thread had before. -/
def insert (sets : ThreadSets) (points : ThreadPoints) : ThreadSets :=
  ⟨(sets.erase points.thread).toList ++ [points]⟩

/-- Making a set for one thread changes no other thread's. -/
theorem get?_ensure_of_ne (sets : ThreadSets) (caps : Capabilities) {thread other : ThreadId}
    (different : other ≠ thread) : (sets.ensure thread caps).get? other = sets.get? other := by
  unfold ensure
  split
  · rfl
  · simp [get?, List.find?_append, ThreadPoints.empty, Ne.symm different]

/-- A thread that had a set keeps it, and any other gets an empty one. -/
theorem get?_ensure_self (sets : ThreadSets) (thread : ThreadId) (caps : Capabilities) :
    (sets.ensure thread caps).get? thread =
      some ((sets.get? thread).getD (.empty thread caps)) := by
  unfold ensure
  cases found : sets.get? thread with
  | some points => simpa using found
  | none =>
      have missing : sets.toList.find? (fun points => points.thread = thread) = none := found
      simp [get?, List.find?_append, missing, ThreadPoints.empty]

end ThreadSets

end DebugRegisters
