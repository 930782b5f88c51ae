import DebugRegisters.ByteMask
import DebugRegisters.Condition
import DebugRegisters.PointKind

/-!
# Requests and points

A request is what the debugger asks for. A point is one entry of the hardware:
a request becomes one or several points. Points are compared by all their
fields, so two equal points have the same effect and can share a register.
-/

set_option autoImplicit false

namespace DebugRegisters

/-- A breakpoint or watchpoint as the debugger asks for it.

`length` counts bytes; for a breakpoint, zero stands for one instruction and
any other length for a range. `instructionLength` is the size of the
instruction under a breakpoint, and zero stands for the shortest one. -/
structure PointRequest where
  kind : PointKind
  address : Address
  length : UInt64
  instructionLength : UInt64
  condition : Option Condition
  deriving DecidableEq, Repr

namespace PointRequest

def breakpoint (address : Address) : PointRequest :=
  ⟨.execute, address, 0, 0, none⟩

def rangedBreakpoint (address : Address) (length : UInt64) : PointRequest :=
  ⟨.execute, address, length, 0, none⟩

def watch (kind : PointKind) (address : Address) (length : UInt64) : PointRequest :=
  ⟨kind, address, length, 0, none⟩

def range (request : PointRequest) : AddressRange :=
  .ofLength request.address request.length

end PointRequest

/-- How the addresses that trap are found from a point's address. -/
inductive Span where
  /-- The selected bytes of the window that starts at the address. -/
  | bytes (mask : ByteMask)
  /-- The address itself; the hardware watches the aligned window around it. -/
  | exact
  /-- From the address up to, and without, `stop`. -/
  | range (stop : Address)
  /-- The addresses that agree with the point's address in the bits of `mask`. -/
  | masked (mask : UInt64)
  deriving DecidableEq, Repr

/-- The contents of a data value comparator. Bit `n` of `byteEnables` puts the
byte `n` of `value`, counted from the least significant, into the comparison. -/
structure Comparator where
  byteEnables : UInt8
  value : UInt64
  deriving DecidableEq, Repr

/-- One entry of the hardware.

`watched` is the part of the request that this entry stands for. It takes part
in equality, so that two requests that fill the same window for different bytes
keep entries of their own, and a trap is reported against the right one. -/
structure EncodedPoint where
  kind : PointKind
  address : Address
  span : Span
  comparator : Option Comparator
  watched : AddressRange
  /-- How many hardware registers the entry takes; ranges and masks take two. -/
  registers : Nat
  deriving DecidableEq, Repr

namespace EncodedPoint

/-- The number of registers to count for the entry: at least one. -/
def cost (point : EncodedPoint) : Nat :=
  max point.registers 1

/-- The addresses on which the hardware traps, for windows of `window` bytes. -/
def hardwareRange (point : EncodedPoint) (window : UInt64) : AddressRange :=
  match point.span with
  | .bytes mask =>
      .ofLength (point.address.advance (UInt64.ofNat mask.offset))
        (UInt64.ofNat (mask.length?.getD (8 - mask.offset)))
  | .exact =>
      let window := if window = 0 then 1 else window
      .ofLength (point.address.alignDown window) window
  | .range stop => ⟨point.address, stop⟩
  | .masked mask => .ofLength ⟨point.address.value &&& mask⟩ (Word.saturatingAdd (~~~mask) 1)

def spanText (point : EncodedPoint) : String :=
  match point.span with
  | .bytes mask => s!" mask={mask}"
  | .exact => " exact"
  | .range stop => s!" range-end={stop}"
  | .masked mask => " addr-mask=" ++ Hexadecimal.text mask.toNat

def comparatorText (point : EncodedPoint) : String :=
  match point.comparator with
  | none => ""
  | some comparator =>
      " dvc=" ++ Hexadecimal.padded 16 comparator.value.toNat ++
        "/be=" ++ Hexadecimal.padded 2 comparator.byteEnables.toNat

def text (point : EncodedPoint) : String :=
  s!"{point.kind} at {point.address}" ++ point.spanText ++ point.comparatorText ++
    s!" (orig {point.watched})"

instance : ToString EncodedPoint := ⟨text⟩

end EncodedPoint

end DebugRegisters
