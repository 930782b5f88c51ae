import DebugRegisters.Text.Hexadecimal
import DebugRegisters.Word

/-!
# Addresses and address ranges

An address is a 64-bit word of its own type, so that it is not taken for a
length, a mask or a register's contents. A range is half open, and its stop may
lie below its start: such a range is empty.
-/

set_option autoImplicit false

namespace DebugRegisters

structure Address where
  value : UInt64
  deriving DecidableEq, Repr, Inhabited

namespace Address

instance : LT Address := ⟨fun left right => left.value < right.value⟩
instance : LE Address := ⟨fun left right => left.value ≤ right.value⟩

instance (left right : Address) : Decidable (left < right) :=
  inferInstanceAs (Decidable (left.value < right.value))

instance (left right : Address) : Decidable (left ≤ right) :=
  inferInstanceAs (Decidable (left.value ≤ right.value))

def toNat (address : Address) : Nat :=
  address.value.toNat

/-- Clears the bits below `alignment`, which rounds down where `alignment` is a
power of two. -/
def alignDown (address : Address) (alignment : UInt64) : Address :=
  ⟨address.value &&& ~~~(alignment - 1)⟩

/-- The bits that `alignDown` clears. -/
def offsetIn (address : Address) (alignment : UInt64) : UInt64 :=
  address.value &&& (alignment - 1)

def isAligned (address : Address) (alignment : UInt64) : Bool :=
  address.offsetIn alignment == 0

/-- The address `distance` bytes up, going round at the top of the address space. -/
def advance (address : Address) (distance : UInt64) : Address :=
  ⟨address.value + distance⟩

/-- The address `distance` bytes down, going round at zero. -/
def retreat (address : Address) (distance : UInt64) : Address :=
  ⟨address.value - distance⟩

def advance? (address : Address) (distance : UInt64) : Option Address :=
  if address.value.toNat + distance.toNat ≤ 0xffffffffffffffff then some (address.advance distance)
  else none

/-- The address `distance` bytes up, or the highest address. -/
def advanceSaturating (address : Address) (distance : UInt64) : Address :=
  ⟨Word.saturatingAdd address.value distance⟩

/-- How far `address` lies above `other`, going round at zero. -/
def distanceFrom (address other : Address) : UInt64 :=
  address.value - other.value

protected def max (left right : Address) : Address :=
  if left ≤ right then right else left

protected def min (left right : Address) : Address :=
  if left ≤ right then left else right

def text (address : Address) : String :=
  Hexadecimal.padded 16 address.toNat

instance : ToString Address := ⟨text⟩

theorem lt_iff_toNat_lt {left right : Address} : left < right ↔ left.toNat < right.toNat :=
  UInt64.lt_iff_toNat_lt

theorem le_iff_toNat_le {left right : Address} : left ≤ right ↔ left.toNat ≤ right.toNat :=
  UInt64.le_iff_toNat_le

theorem toNat_inj {left right : Address} : left.toNat = right.toNat ↔ left = right := by
  cases left
  cases right
  simp [toNat, UInt64.toNat_inj]

theorem toNat_advanceSaturating (address : Address) (distance : UInt64) :
    (address.advanceSaturating distance).toNat =
      min (address.toNat + distance.toNat) 0xffffffffffffffff :=
  Word.toNat_saturatingAdd _ _

end Address

/-- The addresses from `start` up to, and without, `stop`. -/
structure AddressRange where
  start : Address
  stop : Address
  deriving DecidableEq, Repr, Inhabited

namespace AddressRange

/-- The range of `length` bytes from `start`, cut off at the highest address. -/
def ofLength (start : Address) (length : UInt64) : AddressRange :=
  ⟨start, start.advanceSaturating length⟩

/-- The number of bytes; for a stop below the start it goes round at zero. -/
def length (range : AddressRange) : UInt64 :=
  range.stop.distanceFrom range.start

def isEmpty (range : AddressRange) : Bool :=
  range.stop ≤ range.start

def contains (range : AddressRange) (address : Address) : Bool :=
  range.start ≤ address && address < range.stop

/-- The byte of the range nearest to `address`. An empty range answers its start. -/
def clamp (range : AddressRange) (address : Address) : Address :=
  if range.isEmpty then range.start
  else (address.max range.start).min (range.stop.retreat 1)

def text (range : AddressRange) : String :=
  s!"[{range.start}, {range.stop})"

instance : ToString AddressRange := ⟨text⟩

theorem contains_iff {range : AddressRange} {address : Address} :
    range.contains address = true ↔
      range.start.toNat ≤ address.toNat ∧ address.toNat < range.stop.toNat := by
  simp [contains, Address.le_iff_toNat_le, Address.lt_iff_toNat_lt]

end AddressRange

end DebugRegisters
