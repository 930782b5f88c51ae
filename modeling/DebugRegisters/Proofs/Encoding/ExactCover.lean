import DebugRegisters.Proofs.Encoding.Windows
import Mathlib.Control.Monad.Basic

/-!
# Exact cover

The points of a watch stand for adjoining parts of the request, from its first
byte to its last, whichever way they are encoded. What the hardware watches for a
point contains its part, and is no more than its part where bytes can be selected
freely.

There is one exception. A mask table has masks for windows of up to eight bytes.
On hardware that claims to select the bytes of wider windows, a piece that starts
beyond the eighth byte gets the mask of the first eight.
-/

set_option autoImplicit false

namespace DebugRegisters

namespace Span

def isRange : Span → Bool
  | .range _ => true
  | .bytes _ | .exact | .masked _ => false

end Span

namespace ByteMask

theorem inside_of_ofRun? {offset length : Nat} {mask : ByteMask}
    (run : ofRun? offset length = some mask) : 0 < length ∧ offset + length ≤ 8 := by
  unfold ofRun? at run
  split at run
  · cases run
  · omega

/-- A run can be read off the mask that was made for it. -/
theorem run_of_ofRun? {offset length : Nat} {mask : ByteMask}
    (run : ofRun? offset length = some mask) :
    mask.offset = offset ∧ mask.length? = some length := by
  have inside := inside_of_ofRun? run
  have all : ∀ offset length : Fin 9, ∀ mask, ofRun? offset.val length.val = some mask →
      mask.offset = offset.val ∧ mask.length? = some length.val := by
    decide +kernel
  exact all ⟨offset, by omega⟩ ⟨length, by omega⟩ mask run

end ByteMask

/-- The least length of a table that reaches so many bytes does so, unless these are
more than a window has. -/
theorem MaskTable.le_minLength (table : MaskTable) {bytes : UInt64} (few : bytes ≤ 8) :
    bytes ≤ table.minLength bytes := by
  unfold minLength
  split
  · next found => simpa using List.find?_some found
  · exact few

namespace AddressRange

structure Within (inner outer : AddressRange) : Prop where
  start : outer.start.toNat ≤ inner.start.toNat
  stop : inner.stop.toNat ≤ outer.stop.toNat

theorem within_self (range : AddressRange) : range.Within range :=
  ⟨Nat.le_refl _, Nat.le_refl _⟩

theorem within_ofLength {inner : AddressRange} {start : Address} {length : UInt64}
    (first : start.toNat ≤ inner.start.toNat)
    (last : inner.stop.toNat ≤ start.toNat + length.toNat) : inner.Within (ofLength start length) where
  start := first
  stop := by
    have bounded : inner.stop.toNat < 2 ^ 64 := inner.stop.value.toNat_lt
    have stop : (ofLength start length).stop.toNat =
        min (start.toNat + length.toNat) 0xffffffffffffffff :=
      Address.toNat_advanceSaturating start length
    omega

end AddressRange

namespace WatchCursor

variable {table : MaskTable}

/-- With a table, what is watched of a narrow window reaches the end of the step. -/
theorem reach_piece (cursor : WatchCursor) (restricted : cursor.table = some table)
    (narrow : cursor.window ≤ 8) :
    cursor.offset.toNat + cursor.step.toNat ≤ cursor.piece.length.toNat := by
  have eight : (8 : UInt64).toNat = 8 := rfl
  have inside := cursor.offset_lt_window
  have step := cursor.toNat_step
  have inWindow : (cursor.window - cursor.offset).toNat =
      cursor.window.toNat - cursor.offset.toNat :=
    UInt64.toNat_sub_of_le _ _ (UInt64.le_iff_toNat_le.mpr (Nat.le_of_lt inside))
  rw [UInt64.le_iff_toNat_le, eight] at narrow
  unfold piece
  simp only [restricted, Option.isSome_some, if_true]
  split
  · rw [UInt64.sub_zero]
    omega
  · next short =>
      rw [UInt64.le_iff_toNat_le, inWindow] at short
      have sum : (cursor.offset + cursor.remaining).toNat =
          cursor.offset.toNat + cursor.remaining.toNat := by
        rw [UInt64.toNat_add, Nat.mod_eq_of_lt (by omega)]
      have few : cursor.offset + cursor.remaining ≤ 8 := by
        rw [UInt64.le_iff_toNat_le, sum, eight]
        omega
      have least := UInt64.le_iff_toNat_le.mp (table.le_minLength few)
      omega

end WatchCursor

namespace EncodedPoint

/-- The hardware watches the run of bytes that a mask was made for. -/
theorem hardwareRange_of_run {point : EncodedPoint} {mask : ByteMask} {offset length : UInt64}
    (masked : point.span = .bytes mask)
    (run : ByteMask.ofRun? offset.toNat length.toNat = some mask) (window : UInt64) :
    point.hardwareRange window = .ofLength (point.address.advance offset) length := by
  obtain ⟨first, all⟩ := ByteMask.run_of_ofRun? run
  unfold hardwareRange
  simp only [masked, first, all, Option.getD_some, UInt64.ofNat_toNat]

/-- Beginning with `start` and up to `stop`, the points stand for one part after the
other, each with at least one byte. -/
inductive Tiles : Nat → Nat → List EncodedPoint → Prop where
  | nil {stop : Nat} : Tiles stop stop []
  | cons {start stop : Nat} {point : EncodedPoint} {points : List EncodedPoint}
      (first : point.watched.start.toNat = start) (some : start < point.watched.stop.toNat)
      (rest : Tiles point.watched.stop.toNat stop points) : Tiles start stop (point :: points)

theorem Tiles.ne_nil {start stop : Nat} {points : List EncodedPoint}
    (tiles : Tiles start stop points) (some : start < stop) : points ≠ [] := by
  cases tiles with
  | nil => exact absurd some (Nat.lt_irrefl _)
  | cons => exact List.cons_ne_nil _ _

end EncodedPoint

namespace Encoding

def wholePoint (request : PointRequest) : EncodedPoint where
  kind := request.kind
  address := request.address
  span := .range request.range.stop
  comparator := none
  watched := request.range
  registers := 2

inductive Watches (request : PointRequest) (caps : Capabilities) (options : EncodeOptions) :
    List EncodedPoint → Prop where
  | whole (ranged : caps.usesRanges request.length = true) (free : caps.rangeWindow = none)
      (room : 2 ≤ caps.slots request.kind.bank) :
      Watches request caps options [wholePoint request]
  | ranges {window : UInt64} {pieces : List EncodedPoint}
      (ranged : caps.usesRanges request.length = true) (wide : caps.rangeWindow = some window)
      (room : pieces.length ≤ caps.slots request.kind.bank)
      (cut : Cuts (piecePoint request.kind caps true)
        (.start request.address request.length window none) pieces) :
      Watches request caps options pieces
  | windows {pieces : List EncodedPoint} (plain : caps.usesRanges request.length = false)
      (room : pieces.length ≤ caps.slots request.kind.bank)
      (cut : Cuts (piecePoint request.kind caps false)
        (.start request.address request.length caps.alignment
          (if caps.has .byteSelect then options.table else none)) pieces) :
      Watches request caps options (attachComparator options.comparator pieces)

theorem watches_of_encode {request : PointRequest} {caps : Capabilities} {options : EncodeOptions}
    {points : List EncodedPoint} (encoded : encode request caps options = .ok points)
    (watch : request.kind.isWatchpoint = true) : Watches request caps options points := by
  have asked : watchpoint request caps options (caps.slots request.kind.bank) = .ok points := by
    unfold encode at encoded
    dsimp only at encoded
    split at encoded
    · cases encoded
    · exact encoded
  cases ranged : caps.usesRanges request.length with
  | false =>
      rw [watchpoint_windows (length_ne_zero_of_encode encoded watch) ranged] at asked
      obtain ⟨pieces, cut, rfl⟩ := ok_of_map asked
      exact .windows ranged (length_piecePoints_le cut) (cuts_of_piecePoints cut)
  | true =>
      cases wide : caps.rangeWindow with
      | none =>
          rw [watchpoint_whole ranged wide] at asked
          unfold wholeRange at asked
          split at asked
          · cases asked
          · next room =>
              cases asked
              exact .whole ranged wide (Nat.le_of_not_lt room)
      | some window =>
          rw [watchpoint_ranges ranged wide] at asked
          exact .ranges ranged wide (length_piecePoints_le asked) (cuts_of_piecePoints asked)

section Pieces

variable {kind : PointKind} {caps : Capabilities} {piece : WatchPiece} {point : EncodedPoint}

theorem piecePoint_ranged (encoded : piecePoint kind caps true piece = .ok point) :
    point.address = piece.watched.start ∧ point.span = .range piece.watched.stop := by
  cases encoded
  exact ⟨rfl, rfl⟩

theorem piecePoint_exact (whole : caps.has .byteSelect = false)
    (encoded : piecePoint kind caps false piece = .ok point) :
    point.address = piece.watched.start ∧ point.span = .exact := by
  unfold piecePoint at encoded
  simp only [whole, Bool.false_eq_true, if_false] at encoded
  cases encoded
  exact ⟨rfl, rfl⟩

theorem piecePoint_selected (select : caps.has .byteSelect = true)
    (encoded : piecePoint kind caps false piece = .ok point) :
    ∃ mask, ByteMask.ofRun? piece.offset.toNat piece.length.toNat = some mask ∧
      point.address = piece.base ∧ point.span = .bytes mask := by
  unfold piecePoint at encoded
  simp only [select, Bool.false_eq_true, if_false, if_true] at encoded
  split at encoded
  · next mask run =>
      cases encoded
      exact ⟨mask, run, rfl, rfl⟩
  · cases encoded

variable {cursor : WatchCursor}

theorem hardwareRange_ranged (encoded : piecePoint kind caps true cursor.piece = .ok point)
    (window : UInt64) : point.hardwareRange window = point.watched := by
  obtain ⟨address, span⟩ := piecePoint_ranged encoded
  rw [(piecePoint_shape encoded).2.2]
  unfold EncodedPoint.hardwareRange
  rw [span, address]

/-- The hardware watches the whole window, and the piece does not leave it. -/
theorem within_exact (whole : caps.has .byteSelect = false)
    (encoded : piecePoint kind caps false cursor.piece = .ok point)
    (below : cursor.next.toNat + cursor.remaining.toNat < 2 ^ 64) {window : UInt64}
    (same : cursor.window = if window = 0 then 1 else window) :
    point.watched.Within (point.hardwareRange window) := by
  obtain ⟨address, span⟩ := piecePoint_exact whole encoded
  obtain ⟨start, stop⟩ := WatchCursor.watched_piece below
  have parts := cursor.base_add_offset
  have step := cursor.step_le.2
  have hardware : point.hardwareRange window =
      .ofLength (cursor.next.alignDown cursor.window) cursor.window := by
    unfold EncodedPoint.hardwareRange
    rw [span, address, start, same]
  rw [hardware, (piecePoint_shape encoded).2.2]
  refine AddressRange.within_ofLength ?_ ?_
  · rw [start]
    omega
  · rw [stop]
    exact step

/-- Without a table the mask selects the piece and nothing else. -/
theorem hardwareRange_selected (select : caps.has .byteSelect = true) (free : cursor.table = none)
    (encoded : piecePoint kind caps false cursor.piece = .ok point) (window : UInt64) :
    point.hardwareRange window = point.watched := by
  obtain ⟨mask, run, address, span⟩ := piecePoint_selected select encoded
  have piece : cursor.piece = ⟨cursor.next.alignDown cursor.window, cursor.offset, cursor.step,
      .ofLength cursor.next cursor.step⟩ := by
    unfold WatchCursor.piece WatchCursor.step
    rw [free]
    rfl
  rw [piece] at run address
  rw [(piecePoint_shape encoded).2.2, piece, EncodedPoint.hardwareRange_of_run span run, address]
  dsimp only
  unfold WatchCursor.offset
  rw [(cursor.next.alignDown_advance_offsetIn cursor.window).1]

/-- With a table the mask begins with the window and reaches the end of the piece. -/
theorem within_selected (select : caps.has .byteSelect = true) {table : MaskTable}
    (restricted : cursor.table = some table) (narrow : cursor.window ≤ 8)
    (encoded : piecePoint kind caps false cursor.piece = .ok point)
    (below : cursor.next.toNat + cursor.remaining.toNat < 2 ^ 64) (window : UInt64) :
    point.watched.Within (point.hardwareRange window) := by
  obtain ⟨mask, run, address, span⟩ := piecePoint_selected select encoded
  obtain ⟨start, stop⟩ := WatchCursor.watched_piece below
  have parts := cursor.base_add_offset
  have inside := cursor.offset_lt_window
  have step := cursor.toNat_step
  have first : cursor.piece.offset = 0 := by
    unfold WatchCursor.piece
    rw [restricted]
    rfl
  have base : (point.address.advance cursor.piece.offset) = cursor.next.alignDown cursor.window := by
    rw [first, address]
    exact congrArg Address.mk (UInt64.add_zero _)
  have reach := cursor.reach_piece restricted narrow
  rw [EncodedPoint.hardwareRange_of_run span run, base, (piecePoint_shape encoded).2.2]
  refine AddressRange.within_ofLength ?_ ?_
  · rw [start]
    omega
  · rw [stop]
    omega

/-- Whether bytes can be selected or not, a piece that is no range is inside what the
hardware watches for it. -/
theorem within_windows {table : Option MaskTable}
    (narrow : caps.has .byteSelect = true → table ≠ none → caps.alignment ≤ 8)
    (sized : cursor.window = if caps.alignment = 0 then 1 else caps.alignment)
    (restricted : cursor.table = if caps.has .byteSelect then table else none)
    (encoded : piecePoint kind caps false cursor.piece = .ok point)
    (below : cursor.next.toNat + cursor.remaining.toNat < 2 ^ 64) :
    point.watched.Within (point.hardwareRange caps.alignment) := by
  cases select : caps.has .byteSelect with
  | false => exact within_exact select encoded below sized
  | true =>
      rw [select, if_pos rfl] at restricted
      cases given : table with
      | none =>
          rw [hardwareRange_selected select (restricted.trans given) encoded]
          exact AddressRange.within_self _
      | some masks =>
          have small : cursor.window ≤ 8 := by
            rw [sized]
            split
            · decide
            · exact narrow select (by simp [given])
          exact within_selected select (restricted.trans given) small encoded below _

theorem isRange_eq_false (encoded : piecePoint kind caps false piece = .ok point) :
    point.span.isRange = false := by
  cases select : caps.has .byteSelect with
  | false => rw [(piecePoint_exact select encoded).2, Span.isRange]
  | true =>
      obtain ⟨mask, _, _, span⟩ := piecePoint_selected select encoded
      rw [span, Span.isRange]

theorem inWindow_ranged (wide : cursor.window = Capabilities.wideWindowSize)
    (more : cursor.remaining ≠ 0) (below : cursor.next.toNat + cursor.remaining.toNat < 2 ^ 64)
    (encoded : piecePoint kind caps true cursor.piece = .ok point) {stop : Address}
    (range : point.span = .range stop) : point.address.toNat / 512 = (stop.toNat - 1) / 512 := by
  obtain ⟨address, span⟩ := piecePoint_ranged encoded
  obtain ⟨start, last⟩ := WatchCursor.watched_piece below
  rw [span] at range
  cases range
  have size : cursor.window.toNat = 512 := by
    rw [wide]
    rfl
  have parts := cursor.base_add_offset
  have offset : cursor.offset.toNat = cursor.next.toNat % 512 :=
    size ▸ @Address.toNat_offsetIn cursor.next cursor.window 9 size
  have step := cursor.step_le.2
  have some := WatchCursor.toNat_step_pos more
  rw [address, start, last]
  omega

/-- The parts that the pieces from a cursor on stand for adjoin. -/
theorem Cuts.tiles {toPoint : WatchPiece → Except PointError EncodedPoint}
    {points : List EncodedPoint} (cut : Cuts toPoint cursor points)
    (keeps : ∀ piece point, toPoint piece = .ok point → point.watched = piece.watched)
    (below : cursor.next.toNat + cursor.remaining.toNat < 2 ^ 64) :
    EncodedPoint.Tiles cursor.next.toNat (cursor.next.toNat + cursor.remaining.toNat) points := by
  induction cut with
  | @done cursor nothing =>
      rw [nothing]
      exact .nil
  | @piece cursor point points more first rest ih =>
      obtain ⟨start, stop⟩ := WatchCursor.watched_piece below
      have some := WatchCursor.toNat_step_pos more
      have later := ih (by rwa [WatchCursor.rest_end below])
      rw [WatchCursor.rest_end below, WatchCursor.toNat_next_rest below, ← stop,
        ← keeps _ _ first] at later
      refine .cons ?_ ?_ later
      · rw [keeps _ _ first, start]
      · rw [keeps _ _ first, stop]
        omega

end Pieces

section Comparators

variable {comparator : Option Comparator} {pieces : List EncodedPoint}

theorem length_attachComparator : (attachComparator comparator pieces).length = pieces.length := by
  unfold attachComparator
  split <;> rfl

/-- Only the comparator of a single point is changed. -/
theorem mem_attachComparator {point : EncodedPoint}
    (member : point ∈ attachComparator comparator pieces) :
    ∃ bare ∈ pieces, point =
      { bare with comparator := if pieces.length = 1 then comparator else bare.comparator } := by
  match pieces with
  | [] => cases member
  | [bare] => exact ⟨bare, List.mem_cons_self, List.mem_singleton.mp member⟩
  | first :: second :: rest => exact ⟨point, member, by simp⟩

theorem tiles_attachComparator {start stop : Nat}
    (tiles : EncodedPoint.Tiles start stop pieces) :
    EncodedPoint.Tiles start stop (attachComparator comparator pieces) := by
  match pieces with
  | [] => exact tiles
  | [bare] =>
      cases tiles with
      | cons first some rest => exact .cons first some rest
  | _ :: _ :: _ => exact tiles

end Comparators

/-- What is promised of the points of a watch: how many there are, which part of the
request each stands for, what the hardware watches for it, and which of them has a
comparator. -/
structure Covers (request : PointRequest) (caps : Capabilities) (options : EncodeOptions)
    (points : List EncodedPoint) : Prop where
  nonempty : points ≠ []
  room : points.length ≤ caps.slots request.kind.bank
  tiles : EncodedPoint.Tiles request.address.toNat
    (request.address.toNat + request.length.toNat) points
  /-- A mask table is for windows of up to eight bytes. -/
  hardware (narrow : caps.has .byteSelect = true → options.table ≠ none → caps.alignment ≤ 8) :
    ∀ point ∈ points, point.watched.Within (point.hardwareRange caps.alignment)
  precise (select : caps.has .byteSelect = true) (free : options.table = none) :
    ∀ point ∈ points, point.hardwareRange caps.alignment = point.watched
  inWindow (wide : caps.rangeWindow = some Capabilities.wideWindowSize) :
    ∀ point ∈ points, ∀ stop, point.span = .range stop →
      point.address.toNat / 512 = (stop.toNat - 1) / 512
  comparators : ∀ point ∈ points, point.comparator =
    if points.length = 1 ∧ point.span.isRange = false then options.comparator else none

section Ways

variable {request : PointRequest} {caps : Capabilities} {options : EncodeOptions}
  {points : List EncodedPoint}

theorem tiles_of_start (positive : 0 < request.length)
    (below : request.address.toNat + request.length.toNat < 2 ^ 64) {window : UInt64}
    {table : Option MaskTable} {isRanged : Bool}
    (cut : Cuts (piecePoint request.kind caps isRanged)
      (.start request.address request.length window table) points) :
    points ≠ [] ∧ EncodedPoint.Tiles request.address.toNat
      (request.address.toNat + request.length.toNat) points := by
  obtain ⟨next, remaining, _, _⟩ :=
    WatchCursor.start_parts request.address request.length window table
  have some : 0 < request.length.toNat := UInt64.lt_iff_toNat_lt.mp positive
  have tiles := cut.tiles (fun piece point encoded => (piecePoint_shape encoded).2.2)
    (by rwa [next, remaining])
  rw [next, remaining] at tiles
  exact ⟨tiles.ne_nil (by omega), tiles⟩

theorem Watches.length_le (watches : Watches request caps options points) :
    points.length ≤ caps.slots request.kind.bank := by
  cases watches with
  | whole ranged free room => exact Nat.le_of_succ_le room
  | ranges ranged wide room cut => exact room
  | windows plain room cut => exact Nat.le_trans (Nat.le_of_eq length_attachComparator) room

/-- However a watch becomes points, they cover the request. -/
theorem Watches.covers (watches : Watches request caps options points)
    (positive : 0 < request.length)
    (below : request.address.toNat + request.length.toNat < 2 ^ 64) :
    Covers request caps options points := by
  have fewer := watches.length_le
  cases watches with
  | whole ranged free room =>
      have some : 0 < request.length.toNat := UInt64.lt_iff_toNat_lt.mp positive
      have stop : request.range.stop.toNat = request.address.toNat + request.length.toNat :=
        AddressRange.toNat_stop_ofLength below
      have only : ∀ point ∈ [wholePoint request], point = wholePoint request :=
        fun point member => List.mem_singleton.mp member
      refine ⟨List.cons_ne_nil _ _, fewer, ?_, fun _ point member => ?_,
        fun _ _ point member => ?_, fun wide => ?_, fun point member => ?_⟩
      · refine .cons rfl (Nat.lt_of_lt_of_eq (by omega) stop.symm) ?_
        rw [← stop]
        exact .nil
      · rw [only point member]
        exact AddressRange.within_self _
      · rw [only point member]
        rfl
      · rw [free] at wide
        cases wide
      · rw [only point member]
        rfl
  | @ranges window _ ranged wide room cut =>
      obtain ⟨_, _, _, sized⟩ :=
        WatchCursor.start_parts request.address request.length window none
      have short := WatchCursor.start_below below window none
      obtain ⟨nonempty, tiles⟩ := tiles_of_start positive below cut
      have same := cut.forall_cursor short fun later point _ _ _ _ encoded =>
        hardwareRange_ranged encoded caps.alignment
      refine ⟨nonempty, fewer, tiles, fun _ point member => ?_, fun _ _ => same,
        fun same => ?_, ?_⟩
      · rw [same point member]
        exact AddressRange.within_self _
      · rw [wide] at same
        cases same
        exact cut.forall_cursor short fun later point window _ more under encoded _ range =>
          inWindow_ranged (window.trans sized) more under encoded range
      · refine cut.all fun piece point encoded => ?_
        rw [(piecePoint_shape encoded).2.1, (piecePoint_ranged encoded).2]
        simp [Span.isRange]
  | @windows pieces plain room cut =>
      obtain ⟨_, _, restricted, sized⟩ := WatchCursor.start_parts request.address
        request.length caps.alignment (if caps.has .byteSelect then options.table else none)
      have short := WatchCursor.start_below below caps.alignment
        (if caps.has .byteSelect then options.table else none)
      obtain ⟨nonempty, tiles⟩ := tiles_of_start positive below cut
      have bare := cut.all fun piece point encoded => (piecePoint_shape encoded).2.1
      have shapes := cut.all fun piece point encoded => isRange_eq_false encoded
      refine ⟨?_, fewer, tiles_attachComparator tiles, fun narrow point member => ?_,
        fun select free point member => ?_, fun _ point member stop range => ?_,
        fun point member => ?_⟩
      · rw [← List.length_pos_iff, length_attachComparator]
        exact List.length_pos_iff.mpr nonempty
      · obtain ⟨piece, there, rfl⟩ := mem_attachComparator member
        exact cut.forall_cursor short (fun later point window table _ under encoded =>
          within_windows narrow (window.trans sized) (table.trans restricted) encoded under)
          piece there
      · obtain ⟨piece, there, rfl⟩ := mem_attachComparator member
        exact cut.forall_cursor short (fun later point _ table _ _ encoded =>
          hardwareRange_selected select (by rw [table, restricted, if_pos select, free]) encoded
            caps.alignment) piece there
      · obtain ⟨piece, there, rfl⟩ := mem_attachComparator member
        have plain := shapes piece there
        rw [show piece.span = .range stop from range] at plain
        cases plain
      · obtain ⟨piece, there, rfl⟩ := mem_attachComparator member
        have plain := shapes piece there
        rw [length_attachComparator, bare piece there]
        simp [plain]

/-- A watch that is encoded is covered exactly, by whichever hardware and whether or
not a mask table is in force. -/
theorem encoded_watch_covers_request (encoded : encode request caps options = .ok points)
    (watch : request.kind.isWatchpoint = true) (positive : 0 < request.length)
    (below : request.address.toNat + request.length.toNat < 2 ^ 64) :
    Covers request caps options points :=
  (watches_of_encode encoded watch).covers positive below

/-- A watch over two windows, with a table that has no mask for the end of the first. -/
theorem encoded_watch_covers_request_restricted :
    let caps := Capabilities.ofInfoWords .aarch64 (some (Arm.InfoWord.ofSlots 2))
      (some (Arm.InfoWord.ofSlots 2))
    let request := PointRequest.watch .write ⟨0x1006⟩ 4
    let options := EncodeOptions.mk (some .standard) none
    let points : List EncodedPoint :=
      [⟨.write, ⟨0x1000⟩, .bytes ⟨0xff⟩, none, ⟨⟨0x1006⟩, ⟨0x1008⟩⟩, 1⟩,
        ⟨.write, ⟨0x1008⟩, .bytes ⟨0x03⟩, none, ⟨⟨0x1008⟩, ⟨0x100a⟩⟩, 1⟩]
    encode request caps options = .ok points ∧ caps.alignment ≤ 8 ∧
      Covers request caps options points := by
  intro caps request options points
  have encoded : encode request caps options = .ok points := by decide +kernel
  exact ⟨encoded, by decide,
    encoded_watch_covers_request encoded (by decide) (by decide) (by decide)⟩

/-- A reply may claim that the bytes of sixteen-byte windows can be selected. Under a
mask table a watch on the upper half of a window then gets the mask of the lower
half, and no byte of it is watched. -/
theorem mask_table_hides_upper_half :
    let reply : Power.HardwareReply :=
      { version := 1, instructionPoints := 0, dataPoints := 2, comparators := 0,
        dataAlignment := 16, comparatorWidth := 0, features := 0x100000000 }
    let request := PointRequest.watch .write ⟨0x1008⟩ 4
    let point : EncodedPoint :=
      ⟨.write, ⟨0x1000⟩, .bytes ⟨0xff⟩, none, ⟨⟨0x1008⟩, ⟨0x100c⟩⟩, 1⟩
    ∃ caps, Capabilities.ofReply? .powerpc reply = some caps ∧ caps.alignment = 16 ∧
      encode request caps ⟨some .standard, none⟩ = .ok [point] ∧
      point.hardwareRange caps.alignment = ⟨⟨0x1000⟩, ⟨0x1008⟩⟩ ∧
      ¬point.watched.Within (point.hardwareRange caps.alignment) := by
  intro reply request point
  have misses : ¬(AddressRange.mk ⟨0x1008⟩ ⟨0x100c⟩).Within ⟨⟨0x1000⟩, ⟨0x1008⟩⟩ := by
    rintro ⟨_, stop⟩
    exact absurd stop (by decide)
  exact ⟨_, rfl, rfl, by decide +kernel, rfl, misses⟩

end Ways

end Encoding

end DebugRegisters
