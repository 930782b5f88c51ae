import Mathlib.Data.Nat.Bitwise
import DebugRegisters.Power.Descriptor
import DebugRegisters.Proofs.Encoding.Counting

/-!
# Encodings for handles

A descriptor has an address, a stop and a mask of the address, but no room for the
bytes of a window. So a point for handle-based hardware has to begin with the first
byte it stands for. It does as long as the reply of the kernel leaves the bit for byte
masks alone. That bit has no meaning in a reply; where it is set nevertheless, it is
taken over, and the points of a watch have masks that no descriptor tells the kernel of.
-/

set_option autoImplicit false

namespace DebugRegisters

def Power.HardwareReply.selectsBytes (reply : HardwareReply) : Bool :=
  reply.features &&& Features.byteSelect.bits != 0

namespace Features

/-- Whether a set of known features has the one for byte masks depends on one bit. -/
theorem contains_byteSelect_ofBits (bits : UInt64) :
    (ofBits bits).contains .byteSelect = (bits &&& byteSelect.bits != 0) := by
  have known : bits &&& known &&& byteSelect.bits = bits &&& byteSelect.bits := by
    rw [UInt64.and_assoc]
    rfl
  have single : bits &&& byteSelect.bits = 0 ∨ bits &&& byteSelect.bits = byteSelect.bits := by
    have value : (bits &&& byteSelect.bits).toNat = (bits.toNat.testBit 32).toNat * 2 ^ 32 :=
      (UInt64.toNat_and ..).trans (Nat.and_two_pow bits.toNat 32)
    rw [← UInt64.toNat_inj, ← UInt64.toNat_inj, value]
    cases bits.toNat.testBit 32
    · exact .inl rfl
    · exact .inr rfl
  unfold contains ofBits
  dsimp only
  rw [known]
  rcases single with unset | set
  · rw [unset]
    rfl
  · rw [set]
    rfl

end Features

namespace Capabilities

variable {architecture : Architecture} {reply : Power.HardwareReply} {caps : Capabilities}

theorem usesRanges_one (caps : Capabilities) : caps.usesRanges 1 = false := by
  simp [usesRanges]

/-- What a reply says about byte masks and data points is taken over as it stands. -/
theorem ofReply?_parts (built : ofReply? architecture reply = some caps) :
    caps.interface = .handles ∧ caps.slots .watchpoints = reply.dataPoints.toNat ∧
      caps.has .byteSelect = reply.selectsBytes := by
  unfold ofReply? at built
  split at built
  · cases built
  · cases built
    exact ⟨rfl, rfl, Features.contains_byteSelect_ofBits reply.features⟩

end Capabilities

namespace WatchCursor

variable {cursor : WatchCursor}

theorem step_of_byte (single : cursor.remaining = 1) : cursor.step = 1 := by
  have inside := cursor.offset_lt_window
  have one : (1 : UInt64).toNat = 1 := rfl
  rw [← UInt64.toNat_inj, toNat_step, single, one]
  omega

theorem pieces_of_byte (single : cursor.remaining = 1) : cursor.pieces = [cursor.piece] := by
  have last : cursor.rest.remaining = 0 := by
    unfold rest
    dsimp only
    rw [step_of_byte single, single]
    rfl
  rw [pieces_of_more (by rw [single]; decide), pieces_of_nothing last]

/-- However wide the windows are, the first byte of memory is the first of its window. -/
theorem piece_first_byte (window : UInt64) :
    (start ⟨0⟩ 1 window none).piece.offset = 0 ∧ (start ⟨0⟩ 1 window none).piece.length = 1 := by
  obtain ⟨next, remaining, free, _⟩ := start_parts ⟨0⟩ 1 window none
  rw [piece_of_free free, step_of_byte remaining]
  refine ⟨?_, rfl⟩
  rw [offset, next]
  exact UInt64.zero_and

end WatchCursor

namespace Encoding

/-- A point that a descriptor describes: it has no byte mask, and the descriptor begins
with the first byte that the point stands for. -/
structure IsDescribed (point : EncodedPoint) : Prop where
  span : point.span = .exact ∨ ∃ stop, point.span = .range stop
  address : (Power.Descriptor.ofPoint point).address = point.watched.start.value

/-- A watch is not refused because of its place, and its points can be described. -/
structure FitsHandles (outcome : Except PointError (List EncodedPoint)) : Prop where
  placed (address : Address) (length : UInt64) (rule : PlacementRule) :
    outcome ≠ .error (.misaligned address length rule)
  described (points : List EncodedPoint) :
    outcome = .ok points → ∀ point ∈ points, IsDescribed point

section Pieces

variable {kind : PointKind} {caps : Capabilities} {isRanged : Bool} {piece : WatchPiece}
  {toPoint : WatchPiece → Except PointError EncodedPoint} {overflow error : PointError}
  {available : Nat} {cursor : WatchCursor}

/-- If every piece can become a point, a watch is refused for want of registers only. -/
theorem eq_overflow_of_piecePoints (made : ∀ piece, ∃ point, toPoint piece = .ok point)
    (refused : piecePoints toPoint overflow available cursor = .error error) : error = overflow := by
  rcases Nat.lt_or_ge available cursor.pieces.length with short | room
  · rw [piecePoints_overflow (fun piece _ => made piece) short] at refused
    exact (Except.error.inj refused).symm
  · obtain ⟨points, cut⟩ := exists_piecePoints_iff.mpr ⟨room, fun piece _ => made piece⟩
    rw [cut] at refused
    cases refused

/-- A piece whose bytes are not selected becomes a point at its own first byte. -/
theorem exists_piecePoint (unmasked : isRanged = true ∨ caps.has .byteSelect = false) :
    ∃ point, piecePoint kind caps isRanged piece = .ok point ∧ IsDescribed point := by
  cases isRanged with
  | true => exact ⟨_, rfl, .inr ⟨_, rfl⟩, rfl⟩
  | false =>
      have whole : caps.has .byteSelect = false := unmasked.resolve_left Bool.false_ne_true
      refine ⟨⟨kind, piece.watched.start, .exact, none, piece.watched, 1⟩, ?_, .inl rfl, rfl⟩
      unfold piecePoint
      simp only [whole, Bool.false_eq_true, if_false]

theorem Cuts.described (unmasked : isRanged = true ∨ caps.has .byteSelect = false)
    {points : List EncodedPoint} (cut : Cuts (piecePoint kind caps isRanged) cursor points) :
    ∀ point ∈ points, IsDescribed point :=
  cut.all fun piece point encoded => by
    obtain ⟨made, same, described⟩ := @exists_piecePoint kind caps isRanged piece unmasked
    cases encoded.symm.trans same
    exact described

end Pieces

section Watches

variable {request : PointRequest} {caps : Capabilities} {options : EncodeOptions}

/-- A comparator has its own place in a descriptor. -/
theorem IsDescribed.attachComparator {comparator : Option Comparator} {pieces : List EncodedPoint}
    (described : ∀ point ∈ pieces, IsDescribed point) :
    ∀ point ∈ Encoding.attachComparator comparator pieces, IsDescribed point := by
  intro point member
  obtain ⟨piece, there, rfl⟩ := mem_attachComparator member
  exact ⟨(described piece there).span, (described piece there).address⟩

/-- A watch is never refused because of its place, where no byte masks are made. -/
theorem watchpoint_ne_misaligned (some : request.length ≠ 0)
    (unmasked : caps.usesRanges request.length = true ∨ caps.has .byteSelect = false)
    {available : Nat} {address : Address} {length : UInt64} {rule : PlacementRule} :
    watchpoint request caps options available ≠ .error (.misaligned address length rule) := by
  have made : ∀ piece, ∃ point,
      piecePoint request.kind caps (caps.usesRanges request.length) piece = .ok point :=
    fun piece => (exists_piecePoint unmasked).imp fun point made => made.1
  intro refused
  cases ranged : caps.usesRanges request.length with
  | false =>
      rw [watchpoint_windows some ranged] at refused
      rw [ranged] at made
      cases eq_overflow_of_piecePoints made (error_of_map refused)
  | true =>
      cases wide : caps.rangeWindow with
      | none =>
          rw [watchpoint_whole ranged wide] at refused
          unfold wholeRange at refused
          split at refused <;> cases refused
      | some window =>
          rw [watchpoint_ranges ranged wide] at refused
          rw [ranged] at made
          cases eq_overflow_of_piecePoints made refused

/-- A watch fits handles if it is registered as a range, or if no bytes are selected. -/
theorem fitsHandles_of_unmasked (watch : request.kind.isWatchpoint = true)
    (some : 0 < request.length)
    (unmasked : caps.usesRanges request.length = true ∨ caps.has .byteSelect = false) :
    FitsHandles (encode request caps options) where
  placed address length rule refused := by
    unfold encode at refused
    dsimp only at refused
    split at refused
    · cases refused
    · exact watchpoint_ne_misaligned (UInt64.pos_iff_ne_zero.mp some) unmasked refused
  described points encoded := by
    cases watches_of_encode encoded watch with
    | whole =>
        intro point member
        cases List.mem_singleton.mp member
        exact ⟨.inr ⟨_, rfl⟩, rfl⟩
    | ranges _ _ _ cut => exact cut.described (.inl rfl)
    | windows plain _ cut =>
        refine IsDescribed.attachComparator (cut.described (.inr ?_))
        exact unmasked.resolve_left (by simp [plain])

theorem fitsHandles_of_slots (none : caps.slots request.kind.bank = 0) :
    FitsHandles (encode request caps options) := by
  have refused : encode request caps options =
      .error (.unsupported (.slots request.kind caps.architecture)) := if_pos (.inr none)
  rw [refused]
  exact ⟨nofun, nofun⟩

/-- Where bytes are selected, every point that is no range has a mask. -/
theorem masked_of_select (select : caps.has .byteSelect = true)
    (plain : caps.usesRanges request.length = false) (watch : request.kind.isWatchpoint = true)
    {points : List EncodedPoint} (encoded : encode request caps options = .ok points) :
    ∀ point ∈ points, ∃ mask, point.span = .bytes mask := by
  cases watches_of_encode encoded watch with
  | whole ranged => cases plain.symm.trans ranged
  | ranges ranged => cases plain.symm.trans ranged
  | windows _ _ cut =>
      intro point member
      obtain ⟨piece, there, rfl⟩ := mem_attachComparator member
      exact cut.all (fun piece point encoded =>
        (piecePoint_selected select encoded).imp fun mask made => made.2.2) piece there

/-- The first byte of memory can be watched by any hardware. -/
theorem exists_encode_first_byte (driven : caps.interface ≠ .unavailable)
    (slots : caps.slots .watchpoints ≠ 0) :
    ∃ points, encode (.watch .write ⟨0⟩ 1) caps ⟨none, none⟩ = .ok points := by
  refine (@exists_encode_windows_iff (.watch .write ⟨0⟩ 1) caps ⟨none, none⟩ driven slots rfl
    (by decide) caps.usesRanges_one).mpr ?_
  rw [ite_self]
  change (WatchCursor.start ⟨0⟩ 1 caps.alignment none).pieces.length ≤ caps.slots .watchpoints ∧
    ∀ piece ∈ (WatchCursor.start ⟨0⟩ 1 caps.alignment none).pieces,
      ∃ point, piecePoint .write caps false piece = .ok point
  obtain ⟨_, remaining, _, _⟩ := WatchCursor.start_parts ⟨0⟩ 1 caps.alignment none
  obtain ⟨offset, length⟩ := WatchCursor.piece_first_byte caps.alignment
  rw [WatchCursor.pieces_of_byte remaining, List.forall_mem_singleton, exists_piecePoint_iff,
    offset, length]
  · exact ⟨Nat.pos_of_ne_zero slots, fun _ => by decide⟩
  · rw [length]
    decide

end Watches

section Replies

variable {architecture : Architecture} {reply : Power.HardwareReply} {caps : Capabilities}

/-- Watches that become ranges fit handles on all hardware that a reply describes. All
watches do exactly if the reply does not claim that bytes can be selected, or has no data
points at all. -/
theorem watches_fit_handles_iff (built : Capabilities.ofReply? architecture reply = some caps) :
    (∀ request options, request.kind.isWatchpoint = true → 0 < request.length →
      caps.usesRanges request.length = true → FitsHandles (encode request caps options)) ∧
    ((∀ request options, request.kind.isWatchpoint = true → 0 < request.length →
        FitsHandles (encode request caps options)) ↔
      reply.selectsBytes = false ∨ reply.dataPoints = 0) := by
  obtain ⟨driven, slots, select⟩ := Capabilities.ofReply?_parts built
  refine ⟨fun request options watch some ranged => fitsHandles_of_unmasked watch some (.inl ranged),
    fun fits => ?_, ?_⟩
  · by_contra masked
    obtain ⟨selects, points⟩ := not_or.mp masked
    rw [← select, Bool.not_eq_false] at selects
    have room : caps.slots .watchpoints ≠ 0 := by
      rw [slots]
      exact fun none => points (UInt32.toNat_inj.mp none)
    obtain ⟨pieces, encoded⟩ := exists_encode_first_byte (by rw [driven]; decide) room
    obtain ⟨point, member⟩ := List.exists_mem_of_ne_nil pieces (plain_encode encoded).nonempty
    obtain ⟨mask, bytes⟩ := masked_of_select selects caps.usesRanges_one rfl encoded point member
    rcases ((fits _ _ rfl (by decide)).described pieces encoded point member).span with
      exact | ⟨stop, range⟩
    · cases bytes.symm.trans exact
    · cases bytes.symm.trans range
  · rintro (whole | none) request options watch some
    · exact fitsHandles_of_unmasked watch some (.inr (select.trans whole))
    · refine fitsHandles_of_slots ?_
      rw [PointKind.bank_of_isWatchpoint watch, slots, none]
      rfl

/-- A reply with ranges in wide windows and nothing about bytes. -/
theorem watches_fit_handles_iff_wide :
    let reply : Power.HardwareReply :=
      { version := 1, instructionPoints := 1, dataPoints := 1, comparators := 0,
        dataAlignment := 8, comparatorWidth := 0, features := 0x14 }
    ∃ caps, Capabilities.ofReply? .powerpc reply = some caps ∧
      ∀ request options, request.kind.isWatchpoint = true → 0 < request.length →
        FitsHandles (encode request caps options) := by
  intro reply
  let caps : Capabilities := ⟨.powerpc, .handles, 1, 1, 0, 0, 8, 8, some 512, ⟨0x14⟩⟩
  have built : Capabilities.ofReply? .powerpc reply = some caps := by decide +kernel
  exact ⟨caps, built, (watches_fit_handles_iff built).2.mpr (.inl (by decide))⟩

/-- Where the bit is set, the upper half of a window is watched with a mask, and the
descriptor begins with the window. -/
theorem descriptor_begins_before_watch :
    let reply : Power.HardwareReply :=
      { version := 1, instructionPoints := 0, dataPoints := 2, comparators := 0,
        dataAlignment := 8, comparatorWidth := 0, features := 0x100000000 }
    let point : EncodedPoint :=
      ⟨.write, ⟨0x1000⟩, .bytes ⟨0xf0⟩, none, ⟨⟨0x1004⟩, ⟨0x1008⟩⟩, 1⟩
    ∃ caps, Capabilities.ofReply? .powerpc reply = some caps ∧
      encode (.watch .write ⟨0x1004⟩ 4) caps ⟨none, none⟩ = .ok [point] ∧
      (Power.Descriptor.ofPoint point).address = 0x1000 ∧
      ¬FitsHandles (encode (.watch .write ⟨0x1004⟩ 4) caps ⟨none, none⟩) := by
  intro reply point
  let caps : Capabilities := ⟨.powerpc, .handles, 0, 2, 0, 0, 8, 8, none, .byteSelect⟩
  have built : Capabilities.ofReply? .powerpc reply = some caps := by decide +kernel
  have encoded : encode (.watch .write ⟨0x1004⟩ 4) caps ⟨none, none⟩ = .ok [point] := by
    decide +kernel
  refine ⟨caps, built, encoded, rfl, fun fits => ?_⟩
  have begins := (fits.described [point] encoded point List.mem_cons_self).address
  exact absurd begins (by decide)

end Replies

end Encoding

end DebugRegisters
