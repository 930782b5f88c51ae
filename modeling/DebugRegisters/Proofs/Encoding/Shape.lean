import DebugRegisters.Encoding

/-!
# The shape of an encoding

A request that is encoded becomes at least one point, all of the kind of the
request. A comparator changes nothing but the comparator of a single point, so
whether a request can be encoded does not depend on it.
-/

set_option autoImplicit false

namespace DebugRegisters

theorem ok_of_map {ε α β : Type} {change : α → β} {outcome : Except ε α} {value : β}
    (mapped : outcome.map change = .ok value) :
    ∃ before, outcome = .ok before ∧ change before = value := by
  cases outcome with
  | error error => cases mapped
  | ok before => exact ⟨before, rfl, Except.ok.inj mapped⟩

theorem error_of_map {ε α β : Type} {change : α → β} {outcome : Except ε α} {error : ε}
    (mapped : outcome.map change = .error error) : outcome = .error error := by
  cases outcome with
  | error => exact congrArg Except.error (Except.error.inj mapped)
  | ok => cases mapped

namespace Encoding

inductive Cuts (toPoint : WatchPiece → Except PointError EncodedPoint) :
    WatchCursor → List EncodedPoint → Prop where
  | done {cursor : WatchCursor} (nothing : cursor.remaining = 0) : Cuts toPoint cursor []
  | piece {cursor : WatchCursor} {point : EncodedPoint} {points : List EncodedPoint}
      (more : cursor.remaining ≠ 0) (first : toPoint cursor.piece = .ok point)
      (rest : Cuts toPoint cursor.rest points) : Cuts toPoint cursor (point :: points)

section PiecePoints

variable {toPoint : WatchPiece → Except PointError EncodedPoint} {overflow error : PointError}
  {available : Nat} {cursor : WatchCursor} {point : EncodedPoint} {points : List EncodedPoint}

theorem piecePoints_of_nothing (nothing : cursor.remaining = 0) :
    piecePoints toPoint overflow available cursor = .ok [] := by
  unfold piecePoints WatchCursor.next?
  simp only [nothing, if_true]

theorem piecePoints_zero (more : cursor.remaining ≠ 0) :
    piecePoints toPoint overflow 0 cursor = .error overflow := by
  unfold piecePoints WatchCursor.next?
  simp only [more, if_false]

theorem piecePoints_succ_of_error (more : cursor.remaining ≠ 0)
    (refused : toPoint cursor.piece = .error error) :
    piecePoints toPoint overflow (available + 1) cursor = .error error := by
  unfold piecePoints WatchCursor.next?
  simp only [more, if_false, refused]

theorem piecePoints_succ_of_ok (more : cursor.remaining ≠ 0)
    (first : toPoint cursor.piece = .ok point) :
    piecePoints toPoint overflow (available + 1) cursor =
      (piecePoints toPoint overflow available cursor.rest).map (point :: ·) := by
  conv => lhs; unfold piecePoints WatchCursor.next?
  simp only [more, if_false, first]
  cases piecePoints toPoint overflow available cursor.rest <;> rfl

/-- Cutting succeeds with as many points as there are registers for. -/
theorem piecePoints_eq_ok_iff :
    piecePoints toPoint overflow available cursor = .ok points ↔
      Cuts toPoint cursor points ∧ points.length ≤ available := by
  constructor
  · intro cut
    induction available generalizing cursor points with
    | zero =>
        by_cases nothing : cursor.remaining = 0
        · rw [piecePoints_of_nothing nothing] at cut
          cases cut
          exact ⟨.done nothing, Nat.le_refl 0⟩
        · rw [piecePoints_zero nothing] at cut
          cases cut
    | succ available ih =>
        by_cases nothing : cursor.remaining = 0
        · rw [piecePoints_of_nothing nothing] at cut
          cases cut
          exact ⟨.done nothing, Nat.zero_le _⟩
        · cases first : toPoint cursor.piece with
          | error error =>
              rw [piecePoints_succ_of_error nothing first] at cut
              cases cut
          | ok point =>
              rw [piecePoints_succ_of_ok nothing first] at cut
              obtain ⟨later, rest, rfl⟩ := ok_of_map cut
              obtain ⟨cuts, room⟩ := ih rest
              exact ⟨.piece nothing first cuts, Nat.succ_le_succ room⟩
  · rintro ⟨cuts, room⟩
    induction cuts generalizing available with
    | done nothing => exact piecePoints_of_nothing nothing
    | piece more first _ ih =>
        cases available with
        | zero => exact absurd room (Nat.not_succ_le_zero _)
        | succ available =>
            rw [piecePoints_succ_of_ok more first, ih (Nat.le_of_succ_le_succ room)]
            rfl

theorem cuts_of_piecePoints (cut : piecePoints toPoint overflow available cursor = .ok points) :
    Cuts toPoint cursor points :=
  (piecePoints_eq_ok_iff.mp cut).1

theorem length_piecePoints_le (cut : piecePoints toPoint overflow available cursor = .ok points) :
    points.length ≤ available :=
  (piecePoints_eq_ok_iff.mp cut).2

end PiecePoints

theorem Cuts.all {toPoint : WatchPiece → Except PointError EncodedPoint} {cursor : WatchCursor}
    {points : List EncodedPoint} {holds : EncodedPoint → Prop} (cut : Cuts toPoint cursor points)
    (each : ∀ piece point, toPoint piece = .ok point → holds point) : ∀ point ∈ points, holds point := by
  induction cut with
  | done => exact fun point none => by cases none
  | piece more first rest ih =>
      intro point member
      rcases List.mem_cons.mp member with rfl | later
      · exact each _ _ first
      · exact ih point later

theorem piecePoint_shape {kind : PointKind} {caps : Capabilities} {isRanged : Bool}
    {piece : WatchPiece} {point : EncodedPoint}
    (encoded : piecePoint kind caps isRanged piece = .ok point) :
    point.kind = kind ∧ point.comparator = none ∧ point.watched = piece.watched := by
  unfold piecePoint at encoded
  dsimp only at encoded
  split at encoded
  · cases encoded
    exact ⟨rfl, rfl, rfl⟩
  · split at encoded
    · split at encoded
      · cases encoded
        exact ⟨rfl, rfl, rfl⟩
      · cases encoded
    · cases encoded
      exact ⟨rfl, rfl, rfl⟩

structure Plain (request : PointRequest) (points : List EncodedPoint) : Prop where
  nonempty : points ≠ []
  kinds : ∀ point ∈ points, point.kind = request.kind
  comparators : ∀ point ∈ points, point.comparator = none

theorem plain_of_piecePoints {request : PointRequest} {caps : Capabilities} {isRanged : Bool}
    {overflow : PointError} {available : Nat} {window : UInt64} {table : Option MaskTable}
    {points : List EncodedPoint} (some : request.length ≠ 0)
    (cut : piecePoints (piecePoint request.kind caps isRanged) overflow available
      (.start request.address request.length window table) = .ok points) : Plain request points := by
  have cuts := cuts_of_piecePoints cut
  have each : ∀ piece point, piecePoint request.kind caps isRanged piece = .ok point →
      point.kind = request.kind ∧ point.comparator = none := fun piece point encoded =>
    ⟨(piecePoint_shape encoded).1, (piecePoint_shape encoded).2.1⟩
  have shapes := cuts.all each
  refine ⟨?_, fun point member => (shapes point member).1, fun point member =>
    (shapes point member).2⟩
  have remaining : (WatchCursor.start request.address request.length window table).remaining =
      request.length := by
    unfold WatchCursor.start
    split <;> rfl
  rintro rfl
  cases cuts with
  | done nothing => exact some (remaining ▸ nothing)

theorem attachComparator_none {points : List EncodedPoint}
    (bare : ∀ point ∈ points, point.comparator = none) : attachComparator none points = points := by
  match points with
  | [] => rfl
  | [point] =>
      unfold attachComparator
      rw [← bare point List.mem_cons_self]
  | _ :: _ :: _ => rfl

section Ways

variable {request : PointRequest} {caps : Capabilities} {options : EncodeOptions} {available : Nat}

theorem length_ne_zero_of_usesRanges {length : UInt64} (ranged : caps.usesRanges length = true) :
    length ≠ 0 := by
  rintro rfl
  simp [Capabilities.usesRanges] at ranged

theorem watchpoint_whole (ranged : caps.usesRanges request.length = true)
    (free : caps.rangeWindow = none) :
    watchpoint request caps options available = wholeRange request available := by
  unfold watchpoint
  simp only [length_ne_zero_of_usesRanges ranged, ranged, free, Option.isNone_none, Bool.and_self, if_true, if_false]

/-- Ranges with a window are cut at it, and no table restricts them. -/
theorem watchpoint_ranges (ranged : caps.usesRanges request.length = true) {window : UInt64}
    (wide : caps.rangeWindow = some window) :
    watchpoint request caps options available =
      piecePoints (piecePoint request.kind caps true)
        (.capacityExceeded request.kind (windowsSpanned request.range window) available) available
        (.start request.address request.length window none) := by
  unfold watchpoint
  simp only [length_ne_zero_of_usesRanges ranged, ranged, wide, watchWindow, Option.isNone_some, Bool.and_false,
    Bool.false_eq_true, if_true, if_false]

/-- Without ranges a watch is cut into windows, and only there is a comparator
attached. -/
theorem watchpoint_windows (some : request.length ≠ 0)
    (plain : caps.usesRanges request.length = false) :
    watchpoint request caps options available =
      (piecePoints (piecePoint request.kind caps false)
        (.capacityExceeded request.kind (windowsSpanned request.range caps.alignment) available)
        available (.start request.address request.length caps.alignment
          (if caps.has .byteSelect then options.table else none))).map
        (attachComparator options.comparator) := by
  have window : watchWindow caps false options.table =
      (caps.alignment, if caps.has .byteSelect then options.table else none) := by
    unfold watchWindow
    cases caps.rangeWindow <;> rfl
  unfold watchpoint
  simp only [some, plain, window, Bool.false_and, Bool.false_eq_true, if_false]

/-- Where there are registers, a watch is encoded on all of them. -/
theorem encode_watch (driven : caps.interface ≠ .unavailable)
    (slots : caps.slots request.kind.bank ≠ 0) (watch : request.kind.isWatchpoint = true) :
    encode request caps options =
      watchpoint request caps options (caps.slots request.kind.bank) := by
  unfold encode
  simp only [driven, slots, watch, or_self, if_true, if_false]

theorem slots_ne_zero_of_encode {points : List EncodedPoint}
    (encoded : encode request caps options = .ok points) :
    caps.slots request.kind.bank ≠ 0 := by
  intro none
  unfold encode at encoded
  simp [none] at encoded

theorem length_ne_zero_of_encode {points : List EncodedPoint}
    (encoded : encode request caps options = .ok points)
    (watch : request.kind.isWatchpoint = true) : request.length ≠ 0 := by
  intro nothing
  unfold encode watchpoint at encoded
  dsimp only at encoded
  split at encoded
  · cases encoded
  · simp [nothing] at encoded

end Ways

theorem plain_watchpoint {request : PointRequest} {caps : Capabilities} {table : Option MaskTable}
    {available : Nat} {points : List EncodedPoint}
    (encoded : watchpoint request caps ⟨table, none⟩ available = .ok points) :
    Plain request points := by
  unfold watchpoint at encoded
  split at encoded
  · cases encoded
  · next some =>
      dsimp only at encoded
      split at encoded
      · unfold wholeRange at encoded
        split at encoded
        · cases encoded
        · cases encoded
          refine ⟨List.cons_ne_nil _ _, ?_, ?_⟩ <;>
            · intro point member
              cases List.mem_singleton.mp member
              rfl
      · split at encoded
        · exact plain_of_piecePoints some encoded
        · obtain ⟨pieces, cut, rfl⟩ := ok_of_map encoded
          have plain := plain_of_piecePoints some cut
          rwa [attachComparator_none plain.comparators]

theorem plain_breakpoint {request : PointRequest} {caps : Capabilities} {point : EncodedPoint}
    (execute : request.kind = .execute) (encoded : breakpoint request caps = .ok point) :
    Plain request [point] := by
  have shape : point.kind = .execute ∧ point.comparator = none := by
    unfold breakpoint at encoded
    split at encoded
    · cases encoded
    · split at encoded
      · unfold rangedBreakpoint at encoded
        split at encoded
        · cases encoded
          exact ⟨rfl, rfl⟩
        · cases encoded
      · unfold instructionBreakpoint at encoded
        split at encoded
        · cases encoded
        · cases encoded
          exact ⟨rfl, rfl⟩
  refine ⟨List.cons_ne_nil _ _, fun other member => ?_, fun other member => ?_⟩
  · rw [List.mem_singleton.mp member, execute]
    exact shape.1
  · rw [List.mem_singleton.mp member]
    exact shape.2

end Encoding

open Encoding

theorem PointKind.eq_execute {kind : PointKind} (code : ¬kind.isWatchpoint = true) :
    kind = .execute := by
  cases kind <;> first | rfl | exact absurd rfl code

namespace PointKind

variable {kind : PointKind}

theorem bank_of_isWatchpoint (watch : kind.isWatchpoint = true) : kind.bank = .watchpoints := by
  cases kind <;> first | rfl | cases watch

theorem isWatchpoint_of_bank (watch : kind.bank = .watchpoints) : kind.isWatchpoint = true := by
  cases kind <;> first | rfl | cases watch

theorem eq_execute_of_bank (code : kind.bank = .breakpoints) : kind = .execute := by
  cases kind <;> first | rfl | cases code

end PointKind

theorem plain_encode {request : PointRequest} {caps : Capabilities} {table : Option MaskTable}
    {points : List EncodedPoint} (encoded : encode request caps ⟨table, none⟩ = .ok points) :
    Plain request points := by
  unfold encode at encoded
  dsimp only at encoded
  split at encoded
  · cases encoded
  · split at encoded
    · exact plain_watchpoint encoded
    · next code =>
        obtain ⟨point, made, rfl⟩ := ok_of_map encoded
        exact plain_breakpoint (PointKind.eq_execute code) made

/-- A comparator is attached to a single point, or to none. -/
theorem encode_comparator (request : PointRequest) (caps : Capabilities)
    (table : Option MaskTable) (comparator : Option Comparator) :
    encode request caps ⟨table, comparator⟩ = encode request caps ⟨table, none⟩ ∨
      encode request caps ⟨table, comparator⟩ =
        (encode request caps ⟨table, none⟩).map (attachComparator comparator) := by
  unfold encode
  dsimp only
  split
  · exact .inl rfl
  · split
    · unfold watchpoint
      split
      · exact .inl rfl
      · dsimp only
        split
        · exact .inl rfl
        · split
          · exact .inl rfl
          · refine .inr ?_
            cases piecePoints (piecePoint request.kind caps (caps.usesRanges request.length)) _
                (caps.slots request.kind.bank) (.start request.address request.length _ _) with
            | error error => rfl
            | ok points =>
                cases points with
                | nil => rfl
                | cons first rest => cases rest <;> rfl
    · exact .inl rfl

end DebugRegisters
