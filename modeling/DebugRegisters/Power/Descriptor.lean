import DebugRegisters.Point

/-!
# PowerPC registration descriptors

The record with which a point is registered on a handle-based kernel.
-/

set_option autoImplicit false

namespace DebugRegisters.Power

def descriptorVersion : UInt32 := 1

def triggerType : PointKind → UInt32
  | .execute => 1
  | .read => 2
  | .write => 4
  | .access => 6

/-- The condition word for a comparator: "all enabled bytes agree", and above
bit 16 one bit for every enabled byte. -/
def conditionMode (byteEnables : UInt8) : UInt32 :=
  (byteEnables.toUInt32 <<< 16) ||| 1

structure Descriptor where
  version : UInt32
  triggerType : UInt32
  addressMode : UInt32
  conditionMode : UInt32
  address : UInt64
  /-- The stop of a range or the mask of a masked point. -/
  secondAddress : UInt64
  conditionValue : UInt64
  deriving DecidableEq, Repr

/-- Address mode 0 is an exact match, 1 a range without its stop, 3 a mask. -/
def Descriptor.ofPoint (point : EncodedPoint) : Descriptor :=
  let (addressMode, secondAddress) :=
    match point.span with
    | .range stop => ((1 : UInt32), stop.value)
    | .masked mask => (3, mask)
    | .exact | .bytes _ => (0, 0)
  let (mode, value) :=
    match point.comparator with
    | some comparator => (Power.conditionMode comparator.byteEnables, comparator.value)
    | none => (0, 0)
  { version := descriptorVersion
    triggerType := Power.triggerType point.kind
    addressMode
    conditionMode := mode
    address := point.address.value
    secondAddress
    conditionValue := value }

end DebugRegisters.Power
