import DebugRegisters.MaskTable

/-!
# Windows

Hardware watches one aligned window with one entry. A range is cut at every
window boundary into pieces. A piece has two parts: the bytes of the range that
it stands for, and the bytes of its window that the hardware watches for them.
With a mask table the second part starts at the window and is rounded up to a
length of the table; without one the two are the same.

Each piece takes at least one byte of the range, so the cutting comes to an end
for every size of the windows.
-/

set_option autoImplicit false

namespace DebugRegisters

structure WatchPiece where
  /-- Where the window starts. -/
  base : Address
  /-- The first watched byte of the window. -/
  offset : UInt64
  /-- How many bytes are watched from there on. -/
  length : UInt64
  /-- The part of the range that the piece stands for. -/
  watched : AddressRange
  deriving DecidableEq, Repr

/-- The part of a range that is still to be cut. -/
structure WatchCursor where
  next : Address
  remaining : UInt64
  window : UInt64
  table : Option MaskTable
  window_ne_zero : window ≠ 0
  deriving DecidableEq, Repr

namespace WatchCursor

/-- The start of a range of `length` bytes. A window of no bytes counts as one
of a single byte. -/
def start (address : Address) (length window : UInt64) (table : Option MaskTable) : WatchCursor :=
  if isZero : window = 0 then ⟨address, length, 1, table, by decide⟩
  else ⟨address, length, window, table, isZero⟩

def offset (cursor : WatchCursor) : UInt64 :=
  cursor.next.offsetIn cursor.window

def step (cursor : WatchCursor) : UInt64 :=
  if cursor.window - cursor.offset ≤ cursor.remaining then cursor.window - cursor.offset
  else cursor.remaining

def piece (cursor : WatchCursor) : WatchPiece :=
  let first := if cursor.table.isSome then 0 else cursor.offset
  let length :=
    if cursor.window - cursor.offset ≤ cursor.remaining then cursor.window - first
    else
      match cursor.table with
      | some table => table.minLength (cursor.offset + cursor.remaining)
      | none => cursor.remaining
  { base := cursor.next.alignDown cursor.window
    offset := first
    length
    watched := .ofLength cursor.next cursor.step }

def rest (cursor : WatchCursor) : WatchCursor :=
  { cursor with
    next := cursor.next.advanceSaturating cursor.step
    remaining := cursor.remaining - cursor.step }

def next? (cursor : WatchCursor) : Option (WatchPiece × WatchCursor) :=
  if cursor.remaining = 0 then none else some (cursor.piece, cursor.rest)

theorem offset_lt_window (cursor : WatchCursor) : cursor.offset.toNat < cursor.window.toNat := by
  have positive : cursor.window.toNat ≠ 0 := fun isZero =>
    cursor.window_ne_zero (UInt64.toNat_inj.mp isZero)
  have least : (1 : UInt64) ≤ cursor.window := by
    rw [UInt64.le_iff_toNat_le]
    exact Nat.one_le_iff_ne_zero.mpr positive
  have below : cursor.offset.toNat ≤ (cursor.window - 1).toNat := by
    unfold offset Address.offsetIn
    rw [UInt64.toNat_and]
    exact Nat.and_le_right
  rw [UInt64.toNat_sub_of_le _ _ least] at below
  have one : (1 : UInt64).toNat = 1 := rfl
  omega

theorem toNat_step (cursor : WatchCursor) :
    cursor.step.toNat =
      min (cursor.window.toNat - cursor.offset.toNat) cursor.remaining.toNat := by
  have below := cursor.offset_lt_window
  have inWindow : (cursor.window - cursor.offset).toNat =
      cursor.window.toNat - cursor.offset.toNat :=
    UInt64.toNat_sub_of_le _ _ (UInt64.le_iff_toNat_le.mpr (Nat.le_of_lt below))
  unfold step
  split
  · next fits =>
      rw [UInt64.le_iff_toNat_le, inWindow] at fits
      rw [inWindow]
      omega
  · next exceeds =>
      rw [UInt64.le_iff_toNat_le, inWindow] at exceeds
      omega

theorem toNat_remaining_rest (cursor : WatchCursor) :
    cursor.rest.remaining.toNat = cursor.remaining.toNat - cursor.step.toNat := by
  have bounded : cursor.step ≤ cursor.remaining := by
    rw [UInt64.le_iff_toNat_le, toNat_step]
    exact Nat.min_le_right _ _
  exact UInt64.toNat_sub_of_le _ _ bounded

/-- A step takes at least one byte, as long as there is one. -/
theorem remaining_rest_lt {cursor : WatchCursor} (more : cursor.remaining ≠ 0) :
    cursor.rest.remaining.toNat < cursor.remaining.toNat := by
  have positive : cursor.remaining.toNat ≠ 0 := fun isZero =>
    more (UInt64.toNat_inj.mp isZero)
  have below := cursor.offset_lt_window
  rw [toNat_remaining_rest, toNat_step]
  omega

def pieces (cursor : WatchCursor) : List WatchPiece :=
  if _ : cursor.remaining = 0 then [] else cursor.piece :: cursor.rest.pieces
termination_by cursor.remaining.toNat
decreasing_by exact remaining_rest_lt ‹_›

def take (cursor : WatchCursor) : Nat → List WatchPiece
  | 0 => []
  | limit + 1 =>
      match cursor.next? with
      | none => []
      | some (piece, rest) => piece :: rest.take limit

end WatchCursor

def windowsSpanned (range : AddressRange) (window : UInt64) : Nat :=
  let window := if window = 0 then 1 else window
  let first := range.start.alignDown window
  let last := (range.stop.retreat 1).alignDown window
  ((last.distanceFrom first) / window).toNat + 1

end DebugRegisters
