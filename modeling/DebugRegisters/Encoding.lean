import DebugRegisters.Capabilities
import DebugRegisters.Window

/-!
# Encoding

A request becomes the points that the hardware can hold. Nothing here looks at
what is installed: the result depends on the request, the capabilities, the mask
table in force and the comparator, if there is one.

Where the bytes of a window can be selected, a point watches exactly its part
of the request, or with a mask table a little more. Where they cannot, it
watches the whole window. In no case does it watch less.
-/

set_option autoImplicit false

namespace DebugRegisters

/-- What an encoding depends on besides the request and the capabilities. -/
structure EncodeOptions where
  /-- The table that byte masks must keep to. -/
  table : Option MaskTable
  /-- The comparator to attach to a watch that becomes a single point. -/
  comparator : Option Comparator
  deriving DecidableEq, Repr

namespace Encoding

/-- The size of the instruction under a breakpoint, where the architecture has
instructions of the requested size. -/
def instructionLength (requested : UInt64) (architecture : Architecture) :
    Except PointError UInt64 :=
  if requested = 0 then .ok architecture.breakpointAlignment
  else if requested = 4 then .ok 4
  else if (requested = 2 ∨ requested = 3) ∧ architecture = .aarch32 then .ok requested
  else .error (.invalidArgument (.instructionLength requested architecture))

def rangedBreakpoint (request : PointRequest) (caps : Capabilities) : Except PointError EncodedPoint :=
  if caps.interface = .handles ∧ caps.has .instructionRange then
    .ok
      { kind := .execute
        address := request.address
        span := .range (request.address.advanceSaturating request.length)
        comparator := none
        watched := request.range
        registers := 2 }
  else .error (.unsupported .rangedBreakpoints)

def instructionBreakpoint (request : PointRequest) (caps : Capabilities) :
    Except PointError EncodedPoint :=
  match instructionLength request.instructionLength caps.architecture with
  | .error error => .error error
  | .ok length =>
      .ok
        { kind := .execute
          address := request.address
          span :=
            if caps.interface = .registerArray then .bytes (Arm.breakpointMask length) else .exact
          comparator := none
          watched := .ofLength request.address (if length = 2 then 2 else 4)
          registers := 1 }

def breakpoint (request : PointRequest) (caps : Capabilities) : Except PointError EncodedPoint :=
  if !request.address.isAligned caps.architecture.breakpointAlignment then
    .error (.misaligned request.address request.length .instructionAligned)
  else if 0 < request.length then rangedBreakpoint request caps
  else instructionBreakpoint request caps

def piecePoint (kind : PointKind) (caps : Capabilities) (isRanged : Bool) (piece : WatchPiece) :
    Except PointError EncodedPoint :=
  let point (address : Address) (span : Span) : EncodedPoint :=
    { kind, address, span, comparator := none, watched := piece.watched, registers := 1 }
  if isRanged then .ok (point piece.watched.start (.range piece.watched.stop))
  else if caps.has .byteSelect then
    match ByteMask.ofRun? piece.offset.toNat piece.length.toNat with
    | some mask => .ok (point piece.base (.bytes mask))
    | none => .error (.misaligned piece.watched.start piece.watched.length .insideWindow)
  else .ok (point piece.watched.start .exact)

/-- The points for the pieces from a cursor on, with `available` registers
left. `overflow` is the error for a piece too many. -/
def piecePoints (toPoint : WatchPiece → Except PointError EncodedPoint) (overflow : PointError)
    (available : Nat) (cursor : WatchCursor) : Except PointError (List EncodedPoint) :=
  match cursor.next?, available with
  | none, _ => .ok []
  | some _, 0 => .error overflow
  | some (piece, rest), available + 1 =>
      match toPoint piece with
      | .error error => .error error
      | .ok point =>
          match piecePoints toPoint overflow available rest with
          | .error error => .error error
          | .ok points => .ok (point :: points)

/-- The window that a watch is cut into, and the table its masks must keep to.
Ranges and whole windows have no masks to restrict. -/
def watchWindow (caps : Capabilities) (isRanged : Bool) (table : Option MaskTable) :
    UInt64 × Option MaskTable :=
  match caps.rangeWindow, isRanged with
  | some window, true => (window, none)
  | _, _ => (caps.alignment, if caps.has .byteSelect then table else none)

/-- A single range without a window takes the two registers that bound it. -/
def wholeRange (request : PointRequest) (available : Nat) : Except PointError (List EncodedPoint) :=
  if available < 2 then .error (.capacityExceeded request.kind 2 available)
  else
    .ok
      [{ kind := request.kind
         address := request.address
         span := .range request.range.stop
         comparator := none
         watched := request.range
         registers := 2 }]

def attachComparator (comparator : Option Comparator) : List EncodedPoint → List EncodedPoint
  | [point] => [{ point with comparator }]
  | points => points

def watchpoint (request : PointRequest) (caps : Capabilities) (options : EncodeOptions)
    (available : Nat) : Except PointError (List EncodedPoint) :=
  if request.length = 0 then
    .error (.misaligned request.address request.length .positiveLength)
  else
    let isRanged := caps.usesRanges request.length
    if isRanged && caps.rangeWindow.isNone then wholeRange request available
    else
      let (window, table) := watchWindow caps isRanged options.table
      let overflow :=
        PointError.capacityExceeded request.kind (windowsSpanned request.range window) available
      let pieces :=
        piecePoints (piecePoint request.kind caps isRanged) overflow available
          (.start request.address request.length window table)
      if isRanged then pieces else pieces.map (attachComparator options.comparator)

end Encoding

/-- The points that stand for a request, in the order of their addresses. -/
def encode (request : PointRequest) (caps : Capabilities) (options : EncodeOptions) :
    Except PointError (List EncodedPoint) :=
  let available := caps.slots request.kind.bank
  if caps.interface = .unavailable ∨ available = 0 then
    .error (.unsupported (.slots request.kind caps.architecture))
  else if request.kind.isWatchpoint then Encoding.watchpoint request caps options available
  else (Encoding.breakpoint request caps).map fun point => [point]

/-- The address bits that a mask must keep, so that it matches no address of
the kernel. -/
def userMaskBits : UInt64 := 0xc0000000

def keepsUserBits (mask : UInt64) : Bool :=
  mask &&& userMaskBits == userMaskBits

/-- The point that watches the addresses that agree with `address` in the bits
of `mask`. -/
def encodeMasked (kind : PointKind) (address : Address) (mask : UInt64) (caps : Capabilities) :
    Except PointError EncodedPoint :=
  if !(caps.interface == .handles && caps.has .dataMask) then
    .error (.unsupported .maskedWatchpoints)
  else if !keepsUserBits mask then .error (.invalidArgument (.kernelMask mask))
  else
    let point : EncodedPoint :=
      { kind, address, span := .masked mask, comparator := none, watched := default, registers := 2 }
    .ok { point with watched := point.hardwareRange caps.alignment }

end DebugRegisters
