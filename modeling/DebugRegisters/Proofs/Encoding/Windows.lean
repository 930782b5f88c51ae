import DebugRegisters.Proofs.Encoding.Shape
import Mathlib.Algebra.Group.Nat.Defs

/-!
# Windows and the pieces cut from them

An address is the start of its window and an offset into it, and a cursor never
steps over the end of the window it is in. Each point of a watch comes from a
cursor somewhere between the first and the last byte.
-/

set_option autoImplicit false

namespace DebugRegisters

/-- The bits of a word outside a mask and those inside add up to the word, without a
carry. -/
theorem Word.and_not_add_and (word mask : UInt64) :
    (word &&& ~~~mask) + (word &&& mask) = word ∧
      (word &&& ~~~mask).toNat + (word &&& mask).toNat = word.toNat := by
  let bits := word.toBitVec
  let chosen := mask.toBitVec
  have disjoint : (bits &&& ~~~chosen) &&& (bits &&& chosen) = 0#64 := by
    ext index inside
    simp only [BitVec.getElem_and, BitVec.getElem_not, BitVec.getElem_zero]
    cases bits[index] <;> cases chosen[index] <;> rfl
  have whole : (bits &&& ~~~chosen) ||| (bits &&& chosen) = bits := by
    ext index inside
    simp only [BitVec.getElem_or, BitVec.getElem_and, BitVec.getElem_not]
    cases bits[index] <;> cases chosen[index] <;> rfl
  have sum := BitVec.add_eq_or_of_and_eq_zero _ _ disjoint
  rw [whole] at sum
  have parts := BitVec.toNat_add_of_and_eq_zero disjoint
  rw [sum] at parts
  exact ⟨UInt64.toBitVec_inj.mp sum, parts.symm⟩

namespace Address

theorem alignDown_advance_offsetIn (address : Address) (window : UInt64) :
    (address.alignDown window).advance (address.offsetIn window) = address ∧
      (address.alignDown window).toNat + (address.offsetIn window).toNat = address.toNat := by
  obtain ⟨sum, parts⟩ := Word.and_not_add_and address.value (window - 1)
  exact ⟨congrArg Address.mk sum, parts⟩

theorem toNat_alignDown_add_offsetIn (address : Address) (window : UInt64) :
    (address.alignDown window).toNat + (address.offsetIn window).toNat = address.toNat :=
  (address.alignDown_advance_offsetIn window).2

/-- In windows whose size is a power of two, the offset is a remainder. -/
theorem toNat_offsetIn (address : Address) {window : UInt64} {exponent : Nat}
    (power : window.toNat = 2 ^ exponent) :
    (address.offsetIn window).toNat = address.toNat % window.toNat := by
  have least : (1 : UInt64) ≤ window := by
    rw [UInt64.le_iff_toNat_le, power]
    exact Nat.one_le_two_pow
  have mask : (window - 1).toNat = 2 ^ exponent - 1 := by
    rw [UInt64.toNat_sub_of_le _ _ least, power]
    rfl
  unfold offsetIn
  rw [UInt64.toNat_and, mask, Nat.and_two_pow_sub_one_eq_mod, power]
  rfl

theorem toNat_alignDown (address : Address) {window : UInt64} {exponent : Nat}
    (power : window.toNat = 2 ^ exponent) :
    (address.alignDown window).toNat = window.toNat * (address.toNat / window.toNat) := by
  have parts := address.toNat_alignDown_add_offsetIn window
  have division := Nat.div_add_mod address.toNat window.toNat
  rw [toNat_offsetIn address power] at parts
  omega

theorem toNat_advance {address : Address} {distance : UInt64}
    (fits : address.toNat + distance.toNat < 2 ^ 64) :
    (address.advance distance).toNat = address.toNat + distance.toNat :=
  (UInt64.toNat_add _ _).trans (Nat.mod_eq_of_lt fits)

theorem toNat_retreat {address : Address} {distance : UInt64}
    (fits : distance.toNat ≤ address.toNat) :
    (address.retreat distance).toNat = address.toNat - distance.toNat :=
  UInt64.toNat_sub_of_le _ _ (UInt64.le_iff_toNat_le.mpr fits)

theorem toNat_distanceFrom {address other : Address} (above : other.toNat ≤ address.toNat) :
    (address.distanceFrom other).toNat = address.toNat - other.toNat :=
  UInt64.toNat_sub_of_le _ _ (UInt64.le_iff_toNat_le.mpr above)

theorem toNat_offsetIn_eight (address : Address) :
    (address.offsetIn 8).toNat = address.toNat % 8 :=
  @toNat_offsetIn address 8 3 rfl

theorem toNat_alignDown_eight (address : Address) :
    (address.alignDown 8).toNat = address.toNat - address.toNat % 8 := by
  have parts := address.toNat_alignDown_add_offsetIn 8
  rw [toNat_offsetIn_eight] at parts
  omega

end Address

namespace AddressRange

theorem toNat_stop_ofLength {start : Address} {length : UInt64}
    (below : start.toNat + length.toNat < 2 ^ 64) :
    (ofLength start length).stop.toNat = start.toNat + length.toNat := by
  have stop : (ofLength start length).stop.toNat =
      min (start.toNat + length.toNat) 0xffffffffffffffff :=
    Address.toNat_advanceSaturating start length
  omega

theorem length_ofLength {start : Address} {length : UInt64}
    (below : start.toNat + length.toNat < 2 ^ 64) : (ofLength start length).length = length := by
  have stop := toNat_stop_ofLength below
  have above : start.toNat ≤ (ofLength start length).stop.toNat := by
    rw [stop]
    exact Nat.le_add_right _ _
  refine UInt64.toNat_inj.mp ((Address.toNat_distanceFrom above).trans ?_)
  rw [stop]
  exact Nat.add_sub_cancel_left _ _

end AddressRange

namespace WatchCursor

variable {cursor : WatchCursor}

theorem start_parts (address : Address) (length window : UInt64) (table : Option MaskTable) :
    (start address length window table).next = address ∧
      (start address length window table).remaining = length ∧
      (start address length window table).table = table ∧
      (start address length window table).window = if window = 0 then 1 else window := by
  unfold start
  split <;> exact ⟨rfl, rfl, rfl, rfl⟩

theorem start_below {address : Address} {length : UInt64}
    (below : address.toNat + length.toNat < 2 ^ 64) (window : UInt64) (table : Option MaskTable) :
    (start address length window table).next.toNat +
      (start address length window table).remaining.toNat < 2 ^ 64 := by
  obtain ⟨next, remaining, _, _⟩ := start_parts address length window table
  rwa [next, remaining]

theorem pieces_of_nothing (nothing : cursor.remaining = 0) : cursor.pieces = [] := by
  rw [pieces, dif_pos nothing]

theorem pieces_of_more (more : cursor.remaining ≠ 0) :
    cursor.pieces = cursor.piece :: cursor.rest.pieces := by
  rw [pieces, dif_neg more]

theorem base_add_offset (cursor : WatchCursor) :
    (cursor.next.alignDown cursor.window).toNat + cursor.offset.toNat = cursor.next.toNat :=
  cursor.next.toNat_alignDown_add_offsetIn cursor.window

theorem toNat_step_pos (more : cursor.remaining ≠ 0) : 0 < cursor.step.toNat := by
  have inside := cursor.offset_lt_window
  have left : cursor.remaining.toNat ≠ 0 := fun zero => more (UInt64.toNat_inj.mp zero)
  rw [toNat_step]
  omega

/-- A step ends where the range ends or the window, whichever comes first. -/
theorem step_le (cursor : WatchCursor) :
    cursor.step.toNat ≤ cursor.remaining.toNat ∧
      cursor.next.toNat + cursor.step.toNat ≤
        (cursor.next.alignDown cursor.window).toNat + cursor.window.toNat := by
  have parts := cursor.base_add_offset
  have inside := cursor.offset_lt_window
  rw [toNat_step]
  omega

/-- Below the end of the address space, advancing does not saturate. -/
theorem toNat_next_rest (below : cursor.next.toNat + cursor.remaining.toNat < 2 ^ 64) :
    cursor.rest.next.toNat = cursor.next.toNat + cursor.step.toNat := by
  have next : cursor.rest.next.toNat =
      min (cursor.next.toNat + cursor.step.toNat) 0xffffffffffffffff :=
    Address.toNat_advanceSaturating _ _
  have short := cursor.step_le.1
  omega

theorem rest_end (below : cursor.next.toNat + cursor.remaining.toNat < 2 ^ 64) :
    cursor.rest.next.toNat + cursor.rest.remaining.toNat =
      cursor.next.toNat + cursor.remaining.toNat := by
  have short := cursor.step_le.1
  rw [toNat_next_rest below, toNat_remaining_rest]
  omega

/-- A step that leaves something of the range ends with its window. -/
theorem toNat_next_rest_of_more (below : cursor.next.toNat + cursor.remaining.toNat < 2 ^ 64)
    (more : cursor.rest.remaining ≠ 0) :
    cursor.rest.next.toNat = (cursor.next.alignDown cursor.window).toNat + cursor.window.toNat := by
  have inside := cursor.offset_lt_window
  have parts := cursor.base_add_offset
  have step := cursor.toNat_step
  have left : cursor.rest.remaining.toNat ≠ 0 := fun zero => more (UInt64.toNat_inj.mp zero)
  rw [toNat_remaining_rest] at left
  rw [toNat_next_rest below]
  omega

theorem watched_piece (below : cursor.next.toNat + cursor.remaining.toNat < 2 ^ 64) :
    cursor.piece.watched.start = cursor.next ∧
      cursor.piece.watched.stop.toNat = cursor.next.toNat + cursor.step.toNat := by
  have short := cursor.step_le.1
  exact ⟨rfl, AddressRange.toNat_stop_ofLength (by omega)⟩

end WatchCursor

namespace Encoding

variable {toPoint : WatchPiece → Except PointError EncodedPoint} {cursor : WatchCursor}
  {points : List EncodedPoint}

/-- Each point is made of the piece of a cursor, of which everything holds that holds
of the first cursor and goes on from one window to the next. -/
theorem Cuts.forall_kept {holds : EncodedPoint → Prop} (cut : Cuts toPoint cursor points)
    (kept : WatchCursor → Prop) (begun : kept cursor)
    (goes : ∀ later : WatchCursor, kept later → kept later.rest)
    (each : ∀ (later : WatchCursor) (point : EncodedPoint), kept later → later.remaining ≠ 0 →
      toPoint later.piece = .ok point → holds point) :
    ∀ point ∈ points, holds point := by
  induction cut with
  | done => exact fun point none => by cases none
  | @piece cursor first points more encoded rest ih =>
      intro point member
      rcases List.mem_cons.mp member with rfl | further
      · exact each cursor point begun more encoded
      · exact ih (goes cursor begun) point further

/-- Each point is made of the piece of a cursor between the first byte and the last. -/
theorem Cuts.forall_cursor {holds : EncodedPoint → Prop} (cut : Cuts toPoint cursor points)
    (below : cursor.next.toNat + cursor.remaining.toNat < 2 ^ 64)
    (each : ∀ (later : WatchCursor) (point : EncodedPoint), later.window = cursor.window →
      later.table = cursor.table → later.remaining ≠ 0 →
      later.next.toNat + later.remaining.toNat < 2 ^ 64 → toPoint later.piece = .ok point →
      holds point) :
    ∀ point ∈ points, holds point := by
  refine cut.forall_kept (fun later => later.window = cursor.window ∧
    later.table = cursor.table ∧ later.next.toNat + later.remaining.toNat < 2 ^ 64)
    ⟨rfl, rfl, below⟩ ?_ ?_
  · rintro later ⟨window, table, under⟩
    exact ⟨window, table, by rwa [WatchCursor.rest_end under]⟩
  · rintro later point ⟨window, table, under⟩ more encoded
    exact each later point window table more under encoded

end Encoding

end DebugRegisters
