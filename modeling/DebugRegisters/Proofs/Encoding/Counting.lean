import DebugRegisters.Proofs.Encoding.ExactCover
import DebugRegisters.Proofs.Encoding.Tiling
import Mathlib.Algebra.GroupWithZero.Nat

/-!
# How many pieces a watch has

In windows whose size is a power of two, a range has one piece for every window
that it touches. Cutting succeeds if there is a register for each piece and every
piece has a point; it stops at the first piece too many. So whether a watch can be
encoded is known without cutting it.
-/

set_option autoImplicit false

namespace DebugRegisters

namespace AddressRange

variable {start : Address} {length window : UInt64} {exponent : Nat}

theorem windowsSpanned_ofLength (power : window.toNat = 2 ^ exponent)
    (below : start.toNat + length.toNat < 2 ^ 64) (some : 0 < length.toNat) :
    windowsSpanned (ofLength start length) window =
      (start.toNat + length.toNat - 1) / window.toNat - start.toNat / window.toNat + 1 := by
  have positive : 0 < window.toNat := by
    rw [power]
    exact Nat.two_pow_pos exponent
  have isWindow : ¬window = 0 := fun zero => by
    rw [zero] at positive
    cases positive
  have stop := toNat_stop_ofLength below
  have last : ((ofLength start length).stop.retreat 1).toNat = start.toNat + length.toNat - 1 := by
    rw [Address.toNat_retreat, stop]
    · rfl
    · rw [stop]
      exact Nat.le_trans some (Nat.le_add_left _ _)
  have lower : start.toNat / window.toNat ≤ (start.toNat + length.toNat - 1) / window.toNat :=
    Nat.div_le_div_right (by omega)
  have bases : (start.alignDown window).toNat ≤
      (((ofLength start length).stop.retreat 1).alignDown window).toNat := by
    rw [Address.toNat_alignDown _ power, Address.toNat_alignDown _ power, last]
    exact Nat.mul_le_mul_left _ lower
  have first : (ofLength start length).start = start := rfl
  unfold windowsSpanned
  simp only [isWindow, if_false, first]
  rw [UInt64.toNat_div, Address.toNat_distanceFrom bases, Address.toNat_alignDown _ power,
    Address.toNat_alignDown _ power, last, ← Nat.mul_sub, Nat.mul_div_cancel_left _ positive]

/-- So many windows, from the one of the first byte on, reach the end of the range. -/
theorem windowsSpanned_le_iff (power : window.toNat = 2 ^ exponent)
    (below : start.toNat + length.toNat < 2 ^ 64) (some : 0 < length.toNat) {count : Nat} :
    windowsSpanned (ofLength start length) window ≤ count ↔
      start.toNat + length.toNat ≤ (start.alignDown window).toNat + count * window.toNat := by
  have positive : 0 < window.toNat := by
    rw [power]
    exact Nat.two_pow_pos exponent
  have lower : start.toNat / window.toNat ≤ (start.toNat + length.toNat - 1) / window.toNat :=
    Nat.div_le_div_right (by omega)
  have reach := @Nat.div_lt_iff_lt_mul window.toNat (start.toNat + length.toNat - 1)
    (start.toNat / window.toNat + count) positive
  rw [Nat.add_mul, Nat.mul_comm (start.toNat / window.toNat)] at reach
  rw [windowsSpanned_ofLength power below some, Address.toNat_alignDown _ power]
  omega

end AddressRange

namespace WatchCursor

variable {cursor : WatchCursor}

/-- The pieces are counted from the window of the first byte to that of the last. -/
theorem length_pieces {exponent : Nat} (power : cursor.window.toNat = 2 ^ exponent)
    (below : cursor.next.toNat + cursor.remaining.toNat < 2 ^ 64) (more : cursor.remaining ≠ 0) :
    cursor.pieces.length + cursor.next.toNat / cursor.window.toNat =
      (cursor.next.toNat + cursor.remaining.toNat - 1) / cursor.window.toNat + 1 := by
  induction cursor using pieces.induct with
  | case1 cursor nothing => exact absurd nothing more
  | case2 cursor some ih =>
      have base := cursor.next.toNat_alignDown power
      have ends := rest_end below
      have step := cursor.step_le.2
      have least := toNat_step_pos some
      rw [pieces_of_more some, List.length_cons]
      by_cases last : cursor.rest.remaining = 0
      · have next := toNat_next_rest below
        have whole : cursor.rest.remaining.toNat = 0 := congrArg UInt64.toNat last
        have first : cursor.next.toNat / cursor.window.toNat * cursor.window.toNat ≤
            cursor.next.toNat := Nat.div_mul_le_self _ _
        have same : (cursor.next.toNat + cursor.remaining.toNat - 1) / cursor.window.toNat =
            cursor.next.toNat / cursor.window.toNat := by
          refine Nat.div_eq_of_lt_le (by omega) ?_
          rw [Nat.add_mul, Nat.mul_comm (cursor.next.toNat / cursor.window.toNat)]
          omega
        rw [pieces_of_nothing last, same, List.length_nil]
        omega
      · have counted := ih power (by rwa [ends]) last
        have window : cursor.rest.window = cursor.window := rfl
        rw [window, div_next_rest power below last, ends] at counted
        omega

/-- The first piece is the last one if its window reaches the end of the range. -/
theorem remaining_rest_eq_zero_iff :
    cursor.rest.remaining = 0 ↔ cursor.next.toNat + cursor.remaining.toNat ≤
      (cursor.next.alignDown cursor.window).toNat + cursor.window.toNat := by
  have zero : (0 : UInt64).toNat = 0 := rfl
  have inside := cursor.offset_lt_window
  have parts := cursor.base_add_offset
  have step := cursor.toNat_step
  rw [← UInt64.toNat_inj, toNat_remaining_rest, zero]
  omega

theorem window_start {window : UInt64} {exponent : Nat} (power : window.toNat = 2 ^ exponent)
    (address : Address) (length : UInt64) (table : Option MaskTable) :
    (start address length window table).window = window := by
  obtain ⟨_, _, _, sized⟩ := start_parts address length window table
  rw [sized, if_neg]
  rintro rfl
  exact absurd power.symm (Nat.ne_of_gt (Nat.two_pow_pos exponent))

theorem length_pieces_start {address : Address} {length window : UInt64} {exponent : Nat}
    (power : window.toNat = 2 ^ exponent) (below : address.toNat + length.toNat < 2 ^ 64)
    (some : 0 < length.toNat) (table : Option MaskTable) :
    (start address length window table).pieces.length =
      windowsSpanned (.ofLength address length) window := by
  obtain ⟨next, remaining, _, _⟩ := start_parts address length window table
  have sized := window_start power address length table
  have more : (start address length window table).remaining ≠ 0 := by
    rw [remaining]
    rintro rfl
    cases some
  have counted := length_pieces (by rwa [sized]) (start_below below window table) more
  have lower : address.toNat / window.toNat ≤ (address.toNat + length.toNat - 1) / window.toNat :=
    Nat.div_le_div_right (by omega)
  rw [next, remaining, sized] at counted
  rw [AddressRange.windowsSpanned_ofLength power below some]
  omega

/-- A piece watches some byte of its window, and no mask is too short for a window that
is as long as a mask. -/
theorem piece_fits (valid : ∀ table, cursor.table = some table → table.IsValid)
    (more : cursor.remaining ≠ 0) :
    0 < cursor.piece.length.toNat ∧
      (cursor.window.toNat ≤ 8 →
        cursor.piece.offset.toNat + cursor.piece.length.toNat ≤ 8) := by
  have inside := cursor.offset_lt_window
  cases restricted : cursor.table with
  | none =>
      have step := cursor.toNat_step
      have least := toNat_step_pos more
      rw [piece_of_free restricted]
      dsimp only
      omega
  | some table =>
      have zero : (0 : UInt64).toNat = 0 := rfl
      obtain ⟨first, least, short⟩ := masked_piece restricted (valid table restricted)
      rw [first, zero]
      omega

end WatchCursor

namespace Encoding

/-- A piece has a point, unless it needs a mask that reaches out of a window of eight
bytes. -/
theorem exists_piecePoint_iff {kind : PointKind} {caps : Capabilities} {piece : WatchPiece}
    (some : 0 < piece.length.toNat) :
    (∃ point, piecePoint kind caps false piece = .ok point) ↔
      (caps.has .byteSelect = true → piece.offset.toNat + piece.length.toNat ≤ 8) := by
  unfold piecePoint ByteMask.ofRun?
  cases select : caps.has .byteSelect with
  | false => simp
  | true =>
      by_cases long : piece.length.toNat = 0 ∨ 8 < piece.offset.toNat + piece.length.toNat
      · simp only [long, if_true]
        simp
        omega
      · simp only [long, if_false]
        simp
        omega

/-- Only windows that are wider than a mask may have pieces without a point. -/
theorem forall_exists_piecePoint_iff {table : Option MaskTable}
    (valid : ∀ masks, table = some masks → masks.IsValid) (kind : PointKind) (caps : Capabilities)
    (address : Address) (length : UInt64) :
    (∀ piece ∈ (WatchCursor.start address length caps.alignment
      (if caps.has .byteSelect then table else none)).pieces,
      ∃ point, piecePoint kind caps false piece = .ok point) ↔
      (caps.has .byteSelect = true → 8 < caps.alignment.toNat →
        ∀ piece ∈ (WatchCursor.start address length caps.alignment table).pieces,
          piece.offset.toNat + piece.length.toNat ≤ 8) := by
  have fits : ∀ table : Option MaskTable, (∀ masks, table = some masks → masks.IsValid) →
      ∀ piece ∈ (WatchCursor.start address length caps.alignment table).pieces,
      0 < piece.length.toNat ∧ (caps.alignment.toNat ≤ 8 →
        piece.offset.toNat + piece.length.toNat ≤ 8) := by
    intro table valid piece member
    obtain ⟨_, _, same, sized⟩ := WatchCursor.start_parts address length caps.alignment table
    obtain ⟨later, reached, more, rfl⟩ := WatchCursor.exists_of_mem_pieces member
    obtain ⟨window, restricted⟩ := reached.sized
    obtain ⟨positive, short⟩ := WatchCursor.piece_fits (by rwa [restricted, same]) more
    refine ⟨positive, fun narrow => short ?_⟩
    rw [window, sized]
    split
    · decide
    · exact narrow
  cases select : caps.has .byteSelect with
  | false =>
      constructor
      · intro _ impossible
        cases impossible
      · intro _ piece member
        have positive := (fits none (by simp) piece (by simpa using member)).1
        exact (exists_piecePoint_iff positive).mpr fun selected => by simp [select] at selected
  | true =>
      simp only [if_true, forall_const]
      constructor
      · intro each _ piece member
        exact (exists_piecePoint_iff (fits table valid piece member).1).mp (each piece member) select
      · intro bounded piece member
        obtain ⟨positive, short⟩ := fits table valid piece member
        refine (exists_piecePoint_iff positive).mpr fun _ => ?_
        by_cases long : 8 < caps.alignment.toNat
        · exact bounded long piece member
        · exact short (Nat.le_of_not_lt long)

theorem exists_piecePoint_ranged (kind : PointKind) (caps : Capabilities) (piece : WatchPiece) :
    ∃ point, piecePoint kind caps true piece = .ok point :=
  ⟨_, rfl⟩

variable {toPoint : WatchPiece → Except PointError EncodedPoint} {overflow : PointError}
  {available : Nat} {cursor : WatchCursor} {points : List EncodedPoint}

theorem Cuts.length_eq (cut : Cuts toPoint cursor points) :
    points.length = cursor.pieces.length := by
  induction cut with
  | done nothing => rw [WatchCursor.pieces_of_nothing nothing, List.length_nil, List.length_nil]
  | piece more _ _ ih =>
      rw [WatchCursor.pieces_of_more more, List.length_cons, List.length_cons, ih]

theorem exists_cuts_iff :
    (∃ points, Cuts toPoint cursor points) ↔
      ∀ piece ∈ cursor.pieces, ∃ point, toPoint piece = .ok point := by
  induction cursor using WatchCursor.pieces.induct with
  | case1 cursor nothing =>
      rw [WatchCursor.pieces_of_nothing nothing]
      exact ⟨fun _ _ member => absurd member List.not_mem_nil, fun _ => ⟨[], .done nothing⟩⟩
  | case2 cursor more ih =>
      rw [WatchCursor.pieces_of_more more, List.forall_mem_cons, ← ih]
      constructor
      · rintro ⟨_, cuts⟩
        cases cuts with
        | done nothing => exact absurd nothing more
        | piece _ first rest => exact ⟨⟨_, first⟩, _, rest⟩
      · rintro ⟨⟨point, first⟩, points, rest⟩
        exact ⟨point :: points, .piece more first rest⟩

/-- Cutting succeeds exactly if there are registers for all pieces and every piece has
a point. -/
theorem exists_piecePoints_iff :
    (∃ points, piecePoints toPoint overflow available cursor = .ok points) ↔
      cursor.pieces.length ≤ available ∧
        ∀ piece ∈ cursor.pieces, ∃ point, toPoint piece = .ok point := by
  simp only [piecePoints_eq_ok_iff]
  constructor
  · rintro ⟨points, cuts, room⟩
    exact ⟨cuts.length_eq ▸ room, exists_cuts_iff.mp ⟨points, cuts⟩⟩
  · rintro ⟨room, each⟩
    obtain ⟨points, cuts⟩ := exists_cuts_iff.mpr each
    exact ⟨points, cuts, cuts.length_eq ▸ room⟩

/-- With too few registers the first piece without one is refused, not an earlier
one. -/
theorem piecePoints_overflow (each : ∀ piece ∈ cursor.pieces, ∃ point, toPoint piece = .ok point)
    (short : available < cursor.pieces.length) :
    piecePoints toPoint overflow available cursor = .error overflow := by
  have more : cursor.remaining ≠ 0 := by
    intro nothing
    rw [WatchCursor.pieces_of_nothing nothing] at short
    cases short
  induction available generalizing cursor with
  | zero => exact piecePoints_zero more
  | succ available ih =>
      rw [WatchCursor.pieces_of_more more] at each short
      obtain ⟨⟨point, first⟩, later⟩ := List.forall_mem_cons.mp each
      have fewer : available < cursor.rest.pieces.length := Nat.lt_of_succ_lt_succ short
      have further : cursor.rest.remaining ≠ 0 := by
        intro nothing
        rw [WatchCursor.pieces_of_nothing nothing] at fewer
        cases fewer
      rw [piecePoints_succ_of_ok more first, ih later fewer further]
      rfl

section Watches

variable {request : PointRequest} {caps : Capabilities} {options : EncodeOptions}

theorem exists_ok_map_iff {ε α β : Type} {change : α → β} {outcome : Except ε α} :
    (∃ value, outcome.map change = .ok value) ↔ ∃ value, outcome = .ok value := by
  cases outcome <;> simp [Except.map]

theorem exists_encode_whole_iff (driven : caps.interface ≠ .unavailable)
    (slots : caps.slots request.kind.bank ≠ 0) (watch : request.kind.isWatchpoint = true)
    (ranged : caps.usesRanges request.length = true) (free : caps.rangeWindow = none) :
    (∃ points, encode request caps options = .ok points) ↔
      2 ≤ caps.slots request.kind.bank := by
  rw [encode_watch driven slots watch, watchpoint_whole ranged free, wholeRange]
  split
  · next short => simp; omega
  · next room => simp; omega

theorem exists_encode_ranges_iff (driven : caps.interface ≠ .unavailable)
    (slots : caps.slots request.kind.bank ≠ 0) (watch : request.kind.isWatchpoint = true)
    (ranged : caps.usesRanges request.length = true) {window : UInt64}
    (wide : caps.rangeWindow = some window) :
    (∃ points, encode request caps options = .ok points) ↔
      (WatchCursor.start request.address request.length window none).pieces.length ≤
        caps.slots request.kind.bank := by
  rw [encode_watch driven slots watch, watchpoint_ranges ranged wide, exists_piecePoints_iff]
  exact and_iff_left fun piece _ => exists_piecePoint_ranged request.kind caps piece

theorem exists_encode_windows_iff (driven : caps.interface ≠ .unavailable)
    (slots : caps.slots request.kind.bank ≠ 0) (watch : request.kind.isWatchpoint = true)
    (some : request.length ≠ 0) (plain : caps.usesRanges request.length = false) :
    (∃ points, encode request caps options = .ok points) ↔
      (WatchCursor.start request.address request.length caps.alignment
        (if caps.has .byteSelect then options.table else none)).pieces.length ≤
          caps.slots request.kind.bank ∧
      ∀ piece ∈ (WatchCursor.start request.address request.length caps.alignment
        (if caps.has .byteSelect then options.table else none)).pieces,
        ∃ point, piecePoint request.kind caps false piece = .ok point := by
  rw [encode_watch driven slots watch, watchpoint_windows some plain, exists_ok_map_iff,
    exists_piecePoints_iff]

theorem encode_windows_overflow (driven : caps.interface ≠ .unavailable)
    (slots : caps.slots request.kind.bank ≠ 0) (watch : request.kind.isWatchpoint = true)
    (some : request.length ≠ 0) (plain : caps.usesRanges request.length = false)
    (each : ∀ piece ∈ (WatchCursor.start request.address request.length caps.alignment
      (if caps.has .byteSelect then options.table else none)).pieces,
      ∃ point, piecePoint request.kind caps false piece = .ok point)
    (short : caps.slots request.kind.bank <
      (WatchCursor.start request.address request.length caps.alignment
        (if caps.has .byteSelect then options.table else none)).pieces.length) :
    encode request caps options =
      .error (.capacityExceeded request.kind (windowsSpanned request.range caps.alignment)
        (caps.slots request.kind.bank)) := by
  rw [encode_watch driven slots watch, watchpoint_windows some plain,
    piecePoints_overflow each short]
  rfl

end Watches

theorem cost_of_piecePoint {kind : PointKind} {caps : Capabilities} {isRanged : Bool}
    {piece : WatchPiece} {point : EncodedPoint}
    (encoded : piecePoint kind caps isRanged piece = .ok point) : point.cost = 1 := by
  unfold piecePoint at encoded
  dsimp only at encoded
  split at encoded
  · cases encoded
    rfl
  · split at encoded
    · split at encoded
      · cases encoded
        rfl
      · cases encoded
    · cases encoded
      rfl

theorem sum_cost_of_ones {points : List EncodedPoint} (ones : ∀ point ∈ points, point.cost = 1) :
    (points.map EncodedPoint.cost).sum = points.length := by
  rw [List.map_congr_left ones, List.map_const', List.sum_replicate_nat, Nat.mul_one]

/-- All points of a watch find room in an empty bank. -/
theorem Watches.sum_cost_le {request : PointRequest} {caps : Capabilities}
    {options : EncodeOptions} {points : List EncodedPoint}
    (watches : Watches request caps options points) :
    (points.map EncodedPoint.cost).sum ≤ caps.slots request.kind.bank := by
  cases watches with
  | whole ranged free room => exact room
  | ranges ranged wide room cut =>
      rw [sum_cost_of_ones (cut.all fun piece point => cost_of_piecePoint)]
      exact room
  | @windows pieces plain room cut =>
      have ones := cut.all fun piece point => @cost_of_piecePoint _ _ _ piece point
      rw [sum_cost_of_ones, length_attachComparator]
      · exact room
      · intro point member
        obtain ⟨bare, there, rfl⟩ := mem_attachComparator member
        exact ones bare there

end Encoding

end DebugRegisters
