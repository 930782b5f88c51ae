import DebugRegisters.Proofs.Encoding.ExactCover
import DebugRegisters.Proofs.Encoding.Masked
import DebugRegisters.Proofs.Encoding.Precise

/-!
# Points that a trap reaches

Hardware may report a trap at any byte from the start of a window to the last
byte that it watches there. With register arrays a trap on a watched byte is among
these, whether masks are free or restricted, even where the watch is cut off at
the end of the address space.
-/

set_option autoImplicit false

namespace DebugRegisters

namespace AddressRange

variable {range : AddressRange} {address : Address}

theorem isEmpty_iff : range.isEmpty = true ↔ range.stop.toNat ≤ range.start.toNat := by
  simp [isEmpty, Address.le_iff_toNat_le]

theorem isEmpty_eq_false_iff : range.isEmpty = false ↔ range.start.toNat < range.stop.toNat := by
  rw [← Bool.not_eq_true, isEmpty_iff, Nat.not_le]

theorem clamp_of_isEmpty (empty : range.isEmpty = true) : range.clamp address = range.start := by
  unfold clamp
  rw [if_pos empty]

/-- The nearest byte is the last one before, the first one after, or the address. -/
theorem toNat_clamp (some : range.start.toNat < range.stop.toNat) :
    (range.clamp address).toNat =
      min (max address.toNat range.start.toNat) (range.stop.toNat - 1) := by
  have last : (range.stop.retreat 1).toNat = range.stop.toNat - 1 :=
    Address.toNat_retreat (Nat.lt_of_le_of_lt (Nat.zero_le _) some)
  have higher : (address.max range.start).toNat = max address.toNat range.start.toNat := by
    unfold Address.max
    simp only [Address.le_iff_toNat_le]
    split <;> omega
  unfold clamp
  rw [isEmpty_eq_false_iff.mpr some, if_neg Bool.false_ne_true]
  unfold Address.min
  simp only [Address.le_iff_toNat_le, last, higher]
  split <;> omega

theorem contains_clamp (some : range.isEmpty = false) :
    range.contains (range.clamp address) = true := by
  have nonempty := isEmpty_eq_false_iff.mp some
  rw [contains_iff, toNat_clamp nonempty]
  omega

/-- Clamping keeps the bytes of the range where they are, and moves all others. -/
theorem clamp_eq_iff (some : range.start.toNat < range.stop.toNat) :
    range.clamp address = address ↔ range.contains address = true := by
  rw [contains_iff, ← Address.toNat_inj, toNat_clamp some]
  omega

end AddressRange

namespace EncodedPoint

/-- A trap at the address can come from the point: the address is in the window that
the point starts in, or after it, and before the end of what the hardware watches. -/
def Reaches (point : EncodedPoint) (window : UInt64) (address : Address) : Prop :=
  (point.address.alignDown window).toNat ≤ address.toNat ∧
    address.toNat < (point.hardwareRange window).stop.toNat

/-- A byte mask selects a run of bytes, and the bytes that the point stands for lie
between the point's address and the end of that run. There may be none only at the
end of the address space, where the watch is cut off. -/
structure Framed (point : EncodedPoint) : Prop where
  run : ∃ offset length mask, ByteMask.ofRun? offset length = some mask ∧ point.span = .bytes mask
  start : point.address.toNat ≤ point.watched.start.toNat
  stop (window : UInt64) : point.watched.stop.toNat ≤ (point.hardwareRange window).stop.toNat
  some : point.watched.isEmpty = true → point.watched.start.toNat = 0xffffffffffffffff

variable {point : EncodedPoint} {window : UInt64} {address : Address}

theorem toNat_hardwareRange {mask : ByteMask} {offset length : Nat}
    (masked : point.span = .bytes mask) (run : ByteMask.ofRun? offset length = .some mask)
    (window : UInt64) :
    (point.hardwareRange window).start.toNat = (point.address.toNat + offset) % 2 ^ 64 ∧
      (point.hardwareRange window).stop.toNat =
        min ((point.address.toNat + offset) % 2 ^ 64 + length) 0xffffffffffffffff := by
  have inside := ByteMask.inside_of_ofRun? run
  have eight : 8 < UInt64.size := by decide
  have first : (UInt64.ofNat offset).toNat = offset := UInt64.toNat_ofNat_of_lt' (by omega)
  have size : (UInt64.ofNat length).toNat = length := UInt64.toNat_ofNat_of_lt' (by omega)
  have advanced : (point.address.advance (UInt64.ofNat offset)).toNat =
      (point.address.toNat + offset) % 2 ^ 64 := by
    unfold Address.advance Address.toNat
    rw [UInt64.toNat_add, first]
  rw [← first, ← size] at run
  rw [hardwareRange_of_run masked run]
  refine ⟨advanced, (Address.toNat_advanceSaturating _ _).trans ?_⟩
  rw [size, advanced]

namespace Framed

/-- Every watched byte is one at which a trap can come from the point. -/
theorem reaches (framed : point.Framed) (watched : point.watched.contains address = true) :
    point.Reaches window address := by
  obtain ⟨after, before⟩ := AddressRange.contains_iff.mp watched
  have parts := point.address.toNat_alignDown_add_offsetIn window
  have start := framed.start
  have stop := framed.stop window
  constructor
  · omega
  · omega

/-- Every byte that the hardware watches is one at which a trap can come from the point,
if the point stands for any bytes: then no window goes round the address space. -/
theorem reaches_of_hardwareRange (framed : point.Framed) (some : point.watched.isEmpty = false)
    (trapped : (point.hardwareRange window).contains address = true) :
    point.Reaches window address := by
  obtain ⟨offset, length, mask, run, masked⟩ := framed.run
  obtain ⟨first, last⟩ := toNat_hardwareRange masked run window
  obtain ⟨after, before⟩ := AddressRange.contains_iff.mp trapped
  have inside := ByteMask.inside_of_ofRun? run
  have nonempty := AddressRange.isEmpty_eq_false_iff.mp some
  have parts := point.address.toNat_alignDown_add_offsetIn window
  have start := framed.start
  have stop := framed.stop window
  constructor
  · omega
  · exact before

/-- A trap is reported where it was if it was on a byte that the point watches. -/
theorem clamp_eq_iff (framed : point.Framed) (reaches : point.Reaches window address) :
    point.watched.clamp address = address ↔ point.watched.contains address = true := by
  cases empty : point.watched.isEmpty with
  | false => exact AddressRange.clamp_eq_iff (AddressRange.isEmpty_eq_false_iff.mp empty)
  | true =>
      have last := framed.some empty
      have nothing := AddressRange.isEmpty_iff.mp empty
      have bounded : (point.hardwareRange window).stop.toNat < 2 ^ 64 :=
        (point.hardwareRange window).stop.value.toNat_lt
      obtain ⟨_, before⟩ := reaches
      rw [AddressRange.clamp_of_isEmpty empty, AddressRange.contains_iff, ← Address.toNat_inj]
      omega

/-- Rounding a mask up to the table moves the end of what the hardware watches up. -/
theorem restrict {table : MaskTable} (valid : table.IsValid) (framed : point.Framed) :
    (table.restrict point).Framed := by
  obtain ⟨offset, length, mask, run, masked⟩ := framed.run
  have inside := (ByteMask.inside_of_ofRun? run).2
  have eight : 8 < UInt64.size := by decide
  have reach : (UInt64.ofNat (offset + length)).toNat = offset + length :=
    UInt64.toNat_ofNat_of_lt' (by omega)
  have rounded := MaskTable.ofRun?_minLength valid run reach
  have few : UInt64.ofNat (offset + length) ≤ 8 := by
    rw [UInt64.le_iff_toNat_le, reach]
    exact inside
  have longer := UInt64.le_iff_toNat_le.mp (table.le_minLength few)
  rw [reach] at longer
  rw [MaskTable.restrict_of_bytes valid masked]
  refine ⟨⟨_, _, _, rounded, rfl⟩, framed.start, fun window => ?_, framed.some⟩
  refine Nat.le_trans (framed.stop window) ?_
  have before := (toNat_hardwareRange masked run window).2
  have after := (@toNat_hardwareRange { point with span := .bytes (table.roundUp mask) } _ _ _
    rfl rounded window).2
  have bounded : point.address.toNat < 2 ^ 64 := point.address.value.toNat_lt
  rw [before, after]
  dsimp only
  omega

end Framed

end EncodedPoint

namespace Encoding

variable {kind : PointKind} {architecture : Architecture} {first second : Option UInt32}

/-- The point of a step watches the bytes of the step from its window on. -/
theorem framed_maskedPoint {cursor : WatchCursor} (window : cursor.window = 8)
    (free : cursor.table = none) (more : cursor.remaining ≠ 0) {point : EncodedPoint}
    (encoded : piecePoint kind (.ofInfoWords architecture first second) false cursor.piece =
      .ok point) : point.Framed := by
  have select := Capabilities.has_byteSelect architecture first second
  have exact := hardwareRange_selected select free encoded
  obtain ⟨mask, run, freely⟩ := piecePoint_free kind select free (by rw [window]; decide) more
  rw [freely] at encoded
  cases encoded
  have parts := cursor.base_add_offset
  have positive := WatchCursor.toNat_step_pos more
  refine ⟨⟨_, _, mask, run, rfl⟩, ?_, fun window => ?_, fun empty => ?_⟩
  · change (cursor.next.alignDown cursor.window).toNat ≤ cursor.next.toNat
    omega
  · rw [exact window]
  · have stop : (maskedPoint kind cursor mask).watched.stop.toNat =
        min (cursor.next.toNat + cursor.step.toNat) 0xffffffffffffffff :=
      Address.toNat_advanceSaturating _ _
    have bounded : cursor.next.toNat < 2 ^ 64 := cursor.next.value.toNat_lt
    have nothing := AddressRange.isEmpty_iff.mp empty
    change (maskedPoint kind cursor mask).watched.stop.toNat ≤ cursor.next.toNat at nothing
    change cursor.next.toNat = 0xffffffffffffffff
    omega

theorem upholds_framed : Upholds (fun _ => True) fun _ point => point.Framed :=
  .of_free
    (fun _ freely data => (cuts_of_encode freely data).forall_kept
      (fun later => later.window = 8 ∧ later.table = none) ⟨rfl, rfl⟩ (fun _ same => same)
      fun _ _ same more first => framed_maskedPoint same.1 same.2 more first)
    fun valid framed => framed.restrict valid

/-- If a watch ends below the end of the address space, then each of its points stands for
some bytes. -/
theorem upholds_some :
    Upholds PointRequest.EndsBelow fun _ point => point.watched.isEmpty = false := by
  refine .of_free (fun below freely data point member => ?_) fun {table point} _ some => ?_
  · obtain ⟨mask, _, run⟩ := isPrecise_of_encode freely below point member
      ((plain_encode freely).kinds point member ▸ data)
    have inside := ByteMask.inside_of_ofRun? run
    rw [AddressRange.isEmpty_eq_false_iff]
    omega
  · obtain ⟨span, same⟩ := table.restrict_eq point
    rw [same]
    exact some

end Encoding

end DebugRegisters
