import DebugRegisters.Proofs.Encoding.Windows
import DebugRegisters.Proofs.MaskTable.Rounding

/-!
# Encoding under a mask table

Where windows are as long as a mask of the table, encoding a watch under the
table gives the points that encoding it freely gives, each restricted to the
table. Both ways of rounding agree on every piece, and the pieces are cut at the
same addresses. The windows of register arrays are such, and so are all windows
without byte masks.
-/

set_option autoImplicit false

namespace DebugRegisters

namespace WatchCursor

def under (cursor : WatchCursor) (table : MaskTable) : WatchCursor :=
  { cursor with table := some table }

variable {cursor : WatchCursor}

theorem toNat_step_eight (window : cursor.window = 8) :
    cursor.step.toNat = min (8 - cursor.offset.toNat) cursor.remaining.toNat := by
  rw [toNat_step, window]
  rfl

theorem piece_of_free (free : cursor.table = none) :
    cursor.piece =
      ⟨cursor.next.alignDown cursor.window, cursor.offset, cursor.step,
        .ofLength cursor.next cursor.step⟩ := by
  unfold piece step
  rw [free]
  rfl

theorem piece_under (cursor : WatchCursor) (table : MaskTable) :
    (cursor.under table).piece =
      ⟨cursor.next.alignDown cursor.window, 0,
        if cursor.window - cursor.offset ≤ cursor.remaining then cursor.window - 0
        else table.minLength (cursor.offset + cursor.remaining),
        .ofLength cursor.next cursor.step⟩ :=
  rfl

theorem eq_under {table : MaskTable} (restricted : cursor.table = some table) :
    cursor = cursor.under table := by
  cases cursor
  cases restricted
  rfl

end WatchCursor

/-- Where bytes are selected, a window is as long as some mask of the table. -/
def Capabilities.FitsMasks (caps : Capabilities) (table : MaskTable) : Prop :=
  caps.has .byteSelect = true → table.minLength caps.alignment = caps.alignment

theorem Capabilities.has_byteSelect (architecture : Architecture) (first second : Option UInt32) :
    (ofInfoWords architecture first second).has .byteSelect = true :=
  show Features.byteSelect.contains .byteSelect = true by decide

theorem Capabilities.fitsMasks_ofInfoWords (architecture : Architecture)
    (first second : Option UInt32) {table : MaskTable} (valid : table.IsValid) :
    (ofInfoWords architecture first second).FitsMasks table :=
  fun _ => MaskTable.minLength_window valid

namespace Encoding

section Pieces

variable (kind : PointKind) {caps : Capabilities}

def maskedPoint (cursor : WatchCursor) (mask : ByteMask) : EncodedPoint where
  kind
  address := cursor.next.alignDown cursor.window
  span := .bytes mask
  comparator := none
  watched := .ofLength cursor.next cursor.step
  registers := 1

/-- A piece of a window that a byte mask can cover has a mask. -/
theorem piecePoint_free (select : caps.has .byteSelect = true) {cursor : WatchCursor}
    (free : cursor.table = none) (short : cursor.window.toNat ≤ 8) (more : cursor.remaining ≠ 0) :
    ∃ mask, ByteMask.ofRun? cursor.offset.toNat cursor.step.toNat = some mask ∧
      piecePoint kind caps false cursor.piece = .ok (maskedPoint kind cursor mask) := by
  have below := cursor.offset_lt_window
  have step := cursor.toNat_step
  have positive := WatchCursor.toNat_step_pos more
  have run : ByteMask.ofRun? cursor.offset.toNat cursor.step.toNat =
      some ⟨UInt8.ofNat ((1 <<< cursor.step.toNat - 1) <<< cursor.offset.toNat)⟩ := by
    unfold ByteMask.ofRun?
    rw [if_neg (by omega)]
  refine ⟨_, run, ?_⟩
  rw [WatchCursor.piece_of_free free]
  unfold piecePoint
  simp only [select, run, Bool.false_eq_true, if_false, if_true]
  rfl

theorem piecePoint_under (select : caps.has .byteSelect = true) {table : MaskTable}
    (valid : table.IsValid) {cursor : WatchCursor}
    (exact : table.minLength cursor.window = cursor.window) {mask : ByteMask}
    (run : ByteMask.ofRun? cursor.offset.toNat cursor.step.toNat = some mask) :
    piecePoint kind caps false (cursor.under table).piece =
      .ok (maskedPoint kind cursor (table.roundUp mask)) := by
  have below := cursor.offset_lt_window
  have step := cursor.toNat_step
  have short := (valid.toNat_minLength cursor.window).2
  rw [exact] at short
  have inWindow : (cursor.window - cursor.offset).toNat =
      cursor.window.toNat - cursor.offset.toNat :=
    UInt64.toNat_sub_of_le _ _ (UInt64.le_iff_toNat_le.mpr (Nat.le_of_lt below))
  have length : ∀ length : UInt64,
      ByteMask.ofRun? 0 length.toNat = some (table.roundUp mask) →
      piecePoint kind caps false
        ⟨cursor.next.alignDown cursor.window, 0, length, .ofLength cursor.next cursor.step⟩ =
      .ok (maskedPoint kind cursor (table.roundUp mask)) := by
    intro length found
    have zero : (0 : UInt64).toNat = 0 := rfl
    unfold piecePoint
    simp only [select, zero, found, Bool.false_eq_true, if_false, if_true]
    rfl
  rw [WatchCursor.piece_under]
  refine length _ ?_
  split
  · next whole =>
      rw [UInt64.le_iff_toNat_le, inWindow] at whole
      have reach : cursor.window.toNat = cursor.offset.toNat + cursor.step.toNat := by omega
      have rounded := MaskTable.ofRun?_minLength valid run reach
      rw [exact] at rounded
      rwa [UInt64.sub_zero]
  · next part =>
      rw [UInt64.le_iff_toNat_le, inWindow] at part
      have reach : (cursor.offset + cursor.remaining).toNat =
          cursor.offset.toNat + cursor.step.toNat := by
        rw [UInt64.toNat_add, Nat.mod_eq_of_lt (by omega)]
        omega
      exact MaskTable.ofRun?_minLength valid run reach

theorem restrict_maskedPoint {table : MaskTable} (valid : table.IsValid) (cursor : WatchCursor)
    (mask : ByteMask) :
    table.restrict (maskedPoint kind cursor mask) = maskedPoint kind cursor (table.roundUp mask) :=
  MaskTable.restrict_of_bytes valid rfl

/-- The points of all pieces are restricted one by one, and the same requests
are refused. -/
theorem piecePoints_under (select : caps.has .byteSelect = true) {table : MaskTable}
    (valid : table.IsValid) (overflow : PointError) (available : Nat) {cursor : WatchCursor}
    (free : cursor.table = none) (exact : table.minLength cursor.window = cursor.window) :
    piecePoints (piecePoint kind caps false) overflow available (cursor.under table) =
      (piecePoints (piecePoint kind caps false) overflow available cursor).map
        (List.map table.restrict) := by
  have short := (valid.toNat_minLength cursor.window).2
  rw [exact] at short
  induction available generalizing cursor with
  | zero =>
      by_cases nothing : cursor.remaining = 0
      · have none : (cursor.under table).remaining = 0 := nothing
        rw [piecePoints_of_nothing nothing, piecePoints_of_nothing none]
        rfl
      · have some : (cursor.under table).remaining ≠ 0 := nothing
        rw [piecePoints_zero nothing, piecePoints_zero some]
        rfl
  | succ available ih =>
      by_cases nothing : cursor.remaining = 0
      · have none : (cursor.under table).remaining = 0 := nothing
        rw [piecePoints_of_nothing nothing, piecePoints_of_nothing none]
        rfl
      · have more : (cursor.under table).remaining ≠ 0 := nothing
        have rest : (cursor.under table).rest = cursor.rest.under table := rfl
        obtain ⟨mask, run, freely⟩ := piecePoint_free kind select free short nothing
        have restricted := piecePoint_under kind select valid exact run
        rw [piecePoints_succ_of_ok nothing freely, piecePoints_succ_of_ok more restricted, rest,
          @ih cursor.rest free exact short]
        cases piecePoints (piecePoint kind caps false) overflow available cursor.rest with
        | error error => rfl
        | ok points =>
            simp only [Except.map, List.map_cons, restrict_maskedPoint kind valid]

end Pieces

theorem attachComparator_map (table : MaskTable) (comparator : Option Comparator)
    (points : List EncodedPoint) :
    attachComparator comparator (points.map table.restrict) =
      (attachComparator comparator points).map table.restrict := by
  match points with
  | [] => rfl
  | [point] =>
      simp only [List.map_cons, List.map_nil, attachComparator,
        MaskTable.restrict_with_comparator]
  | _ :: _ :: _ => rfl

section Requests

variable (architecture : Architecture) (first second : Option UInt32)

/-- With register arrays no watch is registered as a range. -/
theorem watchpoint_ofInfoWords (request : PointRequest) (options : EncodeOptions)
    (available : Nat) :
    watchpoint request (.ofInfoWords architecture first second) options available =
      if request.length = 0 then
        .error (.misaligned request.address request.length .positiveLength)
      else
        (piecePoints (piecePoint request.kind (.ofInfoWords architecture first second) false)
          (.capacityExceeded request.kind (windowsSpanned request.range 8) available) available
          (.start request.address request.length 8 options.table)).map
            (attachComparator options.comparator) := by
  split
  · next nothing =>
      unfold watchpoint
      rw [if_pos nothing]
  · next some =>
      rw [watchpoint_windows some rfl, Capabilities.has_byteSelect]
      rfl

end Requests

section Tables

variable {caps : Capabilities} {table : MaskTable}

/-- A table changes nothing but byte masks. -/
theorem map_restrict_of_fixed {outcome : Except PointError (List EncodedPoint)}
    (fixed : ∀ points, outcome = .ok points → ∀ point ∈ points, table.restrict point = point) :
    outcome.map (List.map table.restrict) = outcome := by
  cases outcome with
  | error error => rfl
  | ok points =>
      have same := fixed points rfl
      rw [Except.map, List.map_congr_left same, List.map_id']

theorem restrict_piecePoint {kind : PointKind} {isRanged : Bool}
    (unmasked : isRanged = true ∨ caps.has .byteSelect = false) {piece : WatchPiece}
    {point : EncodedPoint} (encoded : piecePoint kind caps isRanged piece = .ok point) :
    table.restrict point = point := by
  unfold piecePoint at encoded
  rcases unmasked with rfl | whole
  · cases encoded
    rfl
  · cases isRanged with
    | true =>
        cases encoded
        rfl
    | false =>
        simp only [whole, Bool.false_eq_true, if_false] at encoded
        cases encoded
        rfl

theorem map_restrict_piecePoints {kind : PointKind} {isRanged : Bool}
    (unmasked : isRanged = true ∨ caps.has .byteSelect = false) (overflow : PointError)
    (available : Nat) (cursor : WatchCursor) :
    (piecePoints (piecePoint kind caps isRanged) overflow available cursor).map
        (List.map table.restrict) =
      piecePoints (piecePoint kind caps isRanged) overflow available cursor := by
  refine map_restrict_of_fixed fun points cut => ?_
  exact (cuts_of_piecePoints cut).all fun piece point encoded => restrict_piecePoint unmasked encoded

theorem map_restrict_attachComparator (comparator : Option Comparator)
    (outcome : Except PointError (List EncodedPoint)) :
    (outcome.map (List.map table.restrict)).map (attachComparator comparator) =
      (outcome.map (attachComparator comparator)).map (List.map table.restrict) := by
  cases outcome with
  | error error => rfl
  | ok points => exact congrArg Except.ok (attachComparator_map table comparator points)

theorem start_under (address : Address) (length window : UInt64) (table : MaskTable) :
    WatchCursor.start address length window (some table) =
      (WatchCursor.start address length window none).under table := by
  unfold WatchCursor.start
  split <;> rfl

theorem watchpoint_restricted (valid : table.IsValid) (fits : caps.FitsMasks table)
    (request : PointRequest) (comparator : Option Comparator) (available : Nat) :
    watchpoint request caps ⟨some table, comparator⟩ available =
      (watchpoint request caps ⟨none, comparator⟩ available).map (List.map table.restrict) := by
  by_cases nothing : request.length = 0
  · unfold watchpoint
    rw [if_pos nothing, if_pos nothing]
    rfl
  cases ranged : caps.usesRanges request.length with
  | true =>
      cases window : caps.rangeWindow with
      | none =>
          rw [watchpoint_whole ranged window, watchpoint_whole ranged window]
          unfold wholeRange
          split <;> rfl
      | some window' =>
          rw [watchpoint_ranges ranged window, watchpoint_ranges ranged window,
            map_restrict_piecePoints (.inl rfl)]
  | false =>
      rw [watchpoint_windows nothing ranged, watchpoint_windows nothing ranged]
      cases select : caps.has .byteSelect with
      | false =>
          simp only [Bool.false_eq_true, if_false]
          rw [← map_restrict_attachComparator, map_restrict_piecePoints (.inr select)]
      | true =>
          have some : caps.alignment ≠ 0 := by
            intro zero
            have positive := (valid.toNat_minLength caps.alignment).1
            rw [fits select, zero] at positive
            cases positive
          obtain ⟨_, _, free, window⟩ :=
            WatchCursor.start_parts request.address request.length caps.alignment none
          rw [if_neg some] at window
          simp only [if_true]
          rw [start_under, piecePoints_under request.kind select valid _ _ free
            (by rw [window, fits select]), map_restrict_attachComparator]

end Tables

end Encoding

def MaskTable.restrictWatch (table : MaskTable) (point : EncodedPoint) : EncodedPoint :=
  if point.kind.isWatchpoint then table.restrict point else point

namespace MaskTable

variable {point : EncodedPoint}

theorem restrict_eq_restrictWatch (table : MaskTable) (watch : point.kind.bank = .watchpoints) :
    table.restrict point = table.restrictWatch point := by
  rw [restrictWatch, if_pos (PointKind.isWatchpoint_of_bank watch)]

theorem restrictWatch_of_breakpoints (table : MaskTable) (code : point.kind.bank = .breakpoints) :
    table.restrictWatch point = point := by
  rw [restrictWatch, PointKind.eq_execute_of_bank code]
  rfl

end MaskTable

/-- Encoding under a mask table gives the restricted points, or the same refusal. -/
theorem encode_restricted {table : MaskTable} (valid : table.IsValid) (architecture : Architecture)
    (first second : Option UInt32) (request : PointRequest) :
    encode request (.ofInfoWords architecture first second) ⟨some table, none⟩ =
      (encode request (.ofInfoWords architecture first second) ⟨none, none⟩).map
        (List.map table.restrictWatch) := by
  have sameKind : ∀ points,
      encode request (.ofInfoWords architecture first second) ⟨none, none⟩ = .ok points →
      points.map table.restrictWatch = points.map fun point =>
        if request.kind.isWatchpoint then table.restrict point else point := by
    intro points encoded
    refine List.map_congr_left fun point member => ?_
    rw [MaskTable.restrictWatch, (plain_encode encoded).kinds point member]
  have restricted : encode request (.ofInfoWords architecture first second) ⟨some table, none⟩ =
      (encode request (.ofInfoWords architecture first second) ⟨none, none⟩).map
        (List.map fun point =>
          if request.kind.isWatchpoint then table.restrict point else point) := by
    unfold encode
    dsimp only
    split
    · rfl
    · split
      · exact Encoding.watchpoint_restricted valid
          (Capabilities.fitsMasks_ofInfoWords architecture first second valid) request none _
      · cases Encoding.breakpoint request (.ofInfoWords architecture first second) <;> rfl
  rw [restricted]
  cases encoded : encode request (.ofInfoWords architecture first second) ⟨none, none⟩ with
  | error error => rfl
  | ok points => exact congrArg Except.ok (sameKind points encoded).symm

/-- Where windows are as long as a mask of the table, a watch that is encoded
under the table becomes the points of the free encoding, each restricted to the
table, or is refused for the same reason. -/
theorem encode_watch_under_table {table : MaskTable} (valid : table.IsValid) {caps : Capabilities}
    (fits : caps.FitsMasks table) {request : PointRequest}
    (watch : request.kind.isWatchpoint = true) (comparator : Option Comparator) :
    encode request caps ⟨some table, comparator⟩ =
      (encode request caps ⟨none, comparator⟩).map (List.map table.restrict) := by
  unfold encode
  dsimp only
  split
  · rfl
  · exact Encoding.watchpoint_restricted valid fits request comparator _

/-- Six bytes from the second one of a window of four on. The table has a mask of
four bytes. -/
theorem encode_watch_under_table_four_bytes :
    let reply : Power.HardwareReply :=
      { version := 1, instructionPoints := 0, dataPoints := 2, comparators := 0,
        dataAlignment := 4, comparatorWidth := 0, features := 0x100000000 }
    let request := PointRequest.watch .write ⟨0x1001⟩ 6
    let first : EncodedPoint :=
      ⟨.write, ⟨0x1000⟩, .bytes ⟨0x0f⟩, none, ⟨⟨0x1001⟩, ⟨0x1004⟩⟩, 1⟩
    let second : EncodedPoint :=
      ⟨.write, ⟨0x1004⟩, .bytes ⟨0x0f⟩, none, ⟨⟨0x1004⟩, ⟨0x1007⟩⟩, 1⟩
    ∃ caps, Capabilities.ofReply? .powerpc reply = some caps ∧ caps.FitsMasks ⟨[0x01, 0x0f, 0xff]⟩ ∧
      MaskTable.IsValid ⟨[0x01, 0x0f, 0xff]⟩ ∧ request.kind.isWatchpoint = true ∧
      encode request caps ⟨none, none⟩ = .ok
        [{ first with span := .bytes ⟨0x0e⟩ }, { second with span := .bytes ⟨0x07⟩ }] ∧
      encode request caps ⟨some ⟨[0x01, 0x0f, 0xff]⟩, none⟩ = .ok [first, second] := by
  intro reply request first second
  have valid : MaskTable.IsValid ⟨[0x01, 0x0f, 0xff]⟩ := ⟨[0x01, 0x0f, 0xff], by decide⟩
  refine ⟨_, rfl, fun _ => by decide, valid, rfl, by decide +kernel, ?_⟩
  refine (encode_watch_under_table valid (fun _ => by decide) rfl none).trans ?_
  decide +kernel

/-- A window of four bytes under a table without a mask of four bytes. The watch
of the whole window keeps its mask, which the table does not have; restricted
later, it has the mask of eight bytes. -/
theorem short_window_keeps_unlisted_mask :
    let reply : Power.HardwareReply :=
      { version := 1, instructionPoints := 0, dataPoints := 2, comparators := 0,
        dataAlignment := 4, comparatorWidth := 0, features := 0x100000000 }
    let table : MaskTable := ⟨[0x01, 0xff]⟩
    let request := PointRequest.watch .write ⟨0x1000⟩ 4
    let point : EncodedPoint :=
      ⟨.write, ⟨0x1000⟩, .bytes ⟨0x0f⟩, none, ⟨⟨0x1000⟩, ⟨0x1004⟩⟩, 1⟩
    ∃ caps, Capabilities.ofReply? .powerpc reply = some caps ∧ table.IsValid ∧
      encode request caps ⟨some table, none⟩ = .ok [point] ∧ table.contains ⟨0x0f⟩ = false ∧
      (encode request caps ⟨none, none⟩).map (List.map table.restrict) =
        .ok [{ point with span := .bytes .full }] ∧
      encode request caps ⟨some table, none⟩ ≠
        (encode request caps ⟨none, none⟩).map (List.map table.restrict) := by
  intro reply table request point
  have valid : table.IsValid := ⟨[0x01, 0xff], by decide⟩
  exact ⟨_, rfl, valid, by decide +kernel, by decide, by decide +kernel, by decide +kernel⟩

end DebugRegisters
