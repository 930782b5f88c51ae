import DebugRegisters.Arm.RegisterBlock
import DebugRegisters.Error

/-!
# Slot tables

The slots of one bank of one thread. Equal points share a slot and are counted
there, and the registers taken by all points never exceed the number of slots.

The kernel's side of a change is handed in as a function on a state of the
caller. It is called only when a slot is taken or given up for good, and where
it fails the table stays as it was.
-/

set_option autoImplicit false

namespace DebugRegisters

structure Slot where
  point : Option EncodedPoint
  /-- How many requests share the slot; zero when the slot is free. This is a natural
  number, where a count of 32 bits would wrap after `2 ^ 32` equal requests. -/
  references : Nat
  /-- The registration that stands for the slot on a handle-based kernel. -/
  handle : Option SlotHandle
  deriving DecidableEq, Repr

namespace Slot

def free : Slot := ⟨none, 0, none⟩

def isOccupied (slot : Slot) : Bool :=
  slot.point.isSome

def cost (slot : Slot) : Nat :=
  match slot.point with
  | none => 0
  | some point => point.cost

def holds (slot : Slot) (point : EncodedPoint) : Bool :=
  slot.point == some point

def usesComparator (slot : Slot) : Bool :=
  match slot.point with
  | none => false
  | some point => point.comparator.isSome

/-- The register pair that arms the slot's point. Only points with a byte mask
have one. -/
def registerPair (slot : Slot) : Arm.RegisterPair :=
  match slot.point with
  | some ⟨kind, address, .bytes mask, _, _, _⟩ => ⟨address.value, Arm.ControlWord.encode kind mask⟩
  | _ => .disabled

end Slot

structure SlotTable where
  bank : RegisterBank
  slots : List Slot
  deriving DecidableEq, Repr

structure Insertion where
  index : Nat
  isFresh : Bool
  deriving DecidableEq, Repr

structure Removal where
  index : Nat
  isFreed : Bool
  deriving DecidableEq, Repr

namespace SlotTable

def empty (bank : RegisterBank) (capacity : Nat) : SlotTable :=
  ⟨bank, List.replicate capacity .free⟩

def capacity (table : SlotTable) : Nat :=
  table.slots.length

def get? (table : SlotTable) (index : Nat) : Option Slot :=
  table.slots[index]?

def occupied (table : SlotTable) : List (Nat × Slot) :=
  (table.slots.zipIdx.map fun (slot, index) => (index, slot)).filter fun (_, slot) => slot.isOccupied

def used (table : SlotTable) : Nat :=
  (table.slots.map Slot.cost).foldr (· + ·) 0

def available (table : SlotTable) : Nat :=
  table.capacity - table.used

def isEmpty (table : SlotTable) : Bool :=
  table.slots.all fun slot => !slot.isOccupied

def find? (table : SlotTable) (point : EncodedPoint) : Option Nat :=
  table.slots.findIdx? fun slot => slot.holds point

def findHandle? (table : SlotTable) (handle : SlotHandle) : Option Nat :=
  table.slots.findIdx? fun slot => slot.isOccupied && slot.handle == some handle

def findFree? (table : SlotTable) : Option Nat :=
  table.slots.findIdx? fun slot => !slot.isOccupied

def comparatorsInUse (table : SlotTable) : Nat :=
  table.slots.countP Slot.usesComparator

/-- The registers that `points` take together, without those already held. -/
def neededFor (table : SlotTable) (points : List EncodedPoint) : Nat :=
  ((points.filter fun point => (table.find? point).isNone).map EncodedPoint.cost).foldr (· + ·) 0

def canAccept (table : SlotTable) (points : List EncodedPoint) : Except PointError Unit :=
  if table.available < table.neededFor points then
    let kind := match points with
      | [] => .execute
      | point :: _ => point.kind
    .error (.capacityExceeded kind (table.neededFor points) table.available)
  else .ok ()

def modify (table : SlotTable) (index : Nat) (change : Slot → Slot) : SlotTable :=
  { table with slots := table.slots.modify index change }

/-- Adds a reference to `point`. Where no slot holds it, `register` is called
for a free one and answers the handle to keep there. -/
def insertWith {σ : Type} (table : SlotTable) (point : EncodedPoint) (state : σ)
    (register : σ → EncodedPoint → Except PointError (Option SlotHandle) × σ) :
    Except PointError Insertion × SlotTable × σ :=
  match table.find? point with
  | some index =>
      (.ok ⟨index, false⟩,
        table.modify index fun slot => { slot with references := slot.references + 1 }, state)
  | none =>
      match table.findFree?.filter fun _ => point.cost ≤ table.available with
      | none =>
          (.error (.capacityExceeded point.kind point.cost table.available), table, state)
      | some index =>
          match register state point with
          | (.error error, state) => (.error error, table, state)
          | (.ok handle, state) =>
              (.ok ⟨index, true⟩, table.modify index fun _ => ⟨some point, 1, handle⟩, state)

/-- Takes a reference to `point` away. For the last one, `deregister` is called
with the handle kept in the slot, and the slot becomes free. -/
def removeWith {σ : Type} (table : SlotTable) (point : EncodedPoint) (state : σ)
    (deregister : σ → Option SlotHandle → Except PointError Unit × σ) :
    Except PointError Removal × SlotTable × σ :=
  match table.find? point with
  | none => (.error (.pointNotFound point.kind point.watched.start), table, state)
  | some index =>
      let slot := (table.get? index).getD .free
      if 1 < slot.references then
        (.ok ⟨index, false⟩,
          table.modify index fun slot => { slot with references := slot.references - 1 }, state)
      else
        match deregister state slot.handle with
        | (.error error, state) => (.error error, table, state)
        | (.ok (), state) => (.ok ⟨index, true⟩, table.modify index fun _ => .free, state)

def setHandle (table : SlotTable) (index : Nat) (handle : Option SlotHandle) : SlotTable :=
  table.modify index fun slot => { slot with handle }

/-- Changes the points of `slots` one after the other, behind those already
done. A point that comes to equal one of those gives its references to it and
leaves its own slot free. Answers all slots and the numbers of those that
changed. -/
def mapPointsFrom (change : EncodedPoint → EncodedPoint) (done : Array Slot) :
    List Slot → Array Slot × List Nat
  | [] => (done, [])
  | slot :: rest =>
      match slot.point with
      | none => mapPointsFrom change (done.push slot) rest
      | some point =>
          if change point = point then mapPointsFrom change (done.push slot) rest
          else
            let number := done.size
            let updated :=
              match done.findIdx? fun earlier => earlier.holds (change point) with
              | some index =>
                  (done.modify index fun earlier =>
                    { earlier with references := earlier.references + slot.references }).push .free
              | none => done.push { slot with point := some (change point) }
            let (slots, changed) := mapPointsFrom change updated rest
            (slots, number :: changed)

/-- Changes every point and merges those that came to be equal to an earlier
one. Answers also the numbers of the slots that changed. -/
def mapPoints (table : SlotTable) (change : EncodedPoint → EncodedPoint) : SlotTable × List Nat :=
  let (slots, changed) := mapPointsFrom change #[] table.slots
  ({ table with slots := slots.toList }, changed)

/-- Frees every slot and answers the handles that were kept. -/
def releaseAll (table : SlotTable) : List SlotHandle × SlotTable :=
  (table.slots.filterMap Slot.handle, { table with slots := table.slots.map fun _ => .free })

def registerBlock (table : SlotTable) : Arm.RegisterBlock :=
  ⟨0, table.slots.map Slot.registerPair⟩

def slotText (label : String) (index : Nat) (slot : Slot) : String :=
  match slot.point with
  | none => s!"\t{label}{index}: free\n"
  | some point =>
      let handle := match slot.handle with
        | some handle => s!", handle={handle}"
        | none => ""
      s!"\t{label}{index}: addr={point.address} (orig={point.watched.start}), ctrl=" ++
        Hexadecimal.padded 8 slot.registerPair.control.toNat ++
        s!", ref.count={slot.references}{handle} [{point}]\n"

def text (table : SlotTable) : String :=
  let (heading, label) := match table.bank with
    | .breakpoints => ("BREAKPOINTS", "BP")
    | .watchpoints => ("WATCHPOINTS", "WP")
  s!"\t{heading}:\n" ++
    String.join (table.slots.zipIdx.map fun (slot, index) => slotText label index slot)

instance : ToString SlotTable := ⟨text⟩

end SlotTable

end DebugRegisters
