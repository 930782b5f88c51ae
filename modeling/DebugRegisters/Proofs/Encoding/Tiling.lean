import DebugRegisters.Proofs.Encoding.Restricted
import Mathlib.Data.List.Chain

/-!
# The pieces tile the range

A range is cut in finitely many steps, whatever the size of the windows. A size that
is no power of two makes a mask with holes, and windows that overlap; still each piece
takes at least one byte, and the next one goes on where it ends. From a window whose
size is a power of two the cutting passes to the window behind it.

No step takes a larger word from a smaller one, so nothing in it goes round.
-/

set_option autoImplicit false

namespace DebugRegisters

namespace WatchPiece

structure Fits (piece : WatchPiece) (window : UInt64) (table : Option MaskTable) : Prop where
  nonempty : piece.watched.start < piece.watched.stop
  inWindow : piece.base ≤ piece.watched.start ∧
    piece.watched.stop.toNat ≤ piece.base.toNat + max window.toNat 1
  aligned (exponent : Nat) : window.toNat = 2 ^ exponent → window.toNat ∣ piece.base.toNat
  free : table = none → piece.base.toNat + piece.offset.toNat = piece.watched.start.toNat ∧
    piece.length = piece.watched.length
  /-- The masks of a table are for eight bytes, so they may be longer than the window. -/
  masked (masks : MaskTable) : table = some masks → masks.IsValid →
    piece.offset = 0 ∧ 0 < piece.length.toNat ∧ piece.length.toNat ≤ max window.toNat 8

structure IsFollowedBy (piece following : WatchPiece) (window : UInt64) : Prop where
  adjacent : piece.watched.stop = following.watched.start
  consecutive (exponent : Nat) : window.toNat = 2 ^ exponent →
    following.base.toNat = piece.base.toNat + window.toNat

/-- The pieces of `length` bytes from `address` on: they stand for all of these bytes, one
piece behind the other, and none stands for a byte twice. -/
structure Tile (address : Address) (length window : UInt64) (table : Option MaskTable)
    (pieces : List WatchPiece) : Prop where
  empty_iff : pieces = [] ↔ length = 0
  first : ∀ piece ∈ pieces.head?, piece.watched.start = address
  last : ∀ piece ∈ pieces.getLast?,
    piece.watched.stop.toNat = address.toNat + length.toNat
  fits : ∀ piece ∈ pieces, piece.Fits window table
  chain : pieces.IsChain fun piece following => piece.IsFollowedBy following window
  increasing : pieces.Pairwise fun piece later => piece.watched.stop ≤ later.watched.start

/-- A window of no bytes is like one of a single byte. -/
theorem Tile.of_one {address : Address} {length : UInt64} {table : Option MaskTable}
    {pieces : List WatchPiece} (tile : Tile address length 1 table pieces) :
    Tile address length 0 table pieces := by
  have noPower : ∀ exponent, (0 : UInt64).toNat ≠ 2 ^ exponent := fun exponent power =>
    absurd power (Nat.ne_of_lt (Nat.two_pow_pos exponent))
  exact
    { tile with
      fits := fun piece member =>
        { tile.fits piece member with
          aligned := fun exponent power => absurd power (noPower exponent) }
      chain := tile.chain.imp fun _ _ followed =>
        ⟨followed.adjacent, fun exponent power => absurd power (noPower exponent)⟩ }

end WatchPiece

namespace WatchCursor

inductive Yields : WatchCursor → List WatchPiece → Prop where
  | done {cursor : WatchCursor} (ended : cursor.next? = none) : Yields cursor []
  | piece {cursor rest : WatchCursor} {piece : WatchPiece} {pieces : List WatchPiece}
      (first : cursor.next? = some (piece, rest)) (later : Yields rest pieces) :
      Yields cursor (piece :: pieces)

inductive Reaches : WatchCursor → WatchCursor → Prop where
  | here {cursor : WatchCursor} : Reaches cursor cursor
  | later {cursor rest other : WatchCursor} {piece : WatchPiece}
      (first : cursor.next? = some (piece, rest)) (reached : Reaches rest other) :
      Reaches cursor other

/-- None of the sums and differences that the next piece is made with goes round. The mask
of an offset is one less than the window, and a range that ends inside the window ends as
many bytes past the offset as are left of it. -/
structure StaysInWords (cursor : WatchCursor) : Prop where
  mask : 1 ≤ cursor.window.toNat
  window : cursor.offset.toNat < cursor.window.toNat
  reach : cursor.remaining.toNat < cursor.window.toNat - cursor.offset.toNat →
    cursor.offset.toNat + cursor.remaining.toNat < 2 ^ 64
  remaining : cursor.step.toNat ≤ cursor.remaining.toNat
  next : cursor.next.toNat + cursor.step.toNat < 2 ^ 64

variable {cursor other : WatchCursor}

section Steps

theorem next?_eq_none_iff : cursor.next? = none ↔ cursor.remaining = 0 := by
  unfold next?
  split <;> simp [*]

theorem next?_eq_some_iff {piece : WatchPiece} {rest : WatchCursor} :
    cursor.next? = some (piece, rest) ↔
      cursor.remaining ≠ 0 ∧ cursor.piece = piece ∧ cursor.rest = rest := by
  unfold next?
  split <;> simp [*]

theorem staysInWords (below : cursor.next.toNat + cursor.remaining.toNat < 2 ^ 64) :
    cursor.StaysInWords := by
  have inside := cursor.offset_lt_window
  have window := cursor.window.toNat_lt
  have short := cursor.step_le.1
  constructor <;> omega

theorem masked_piece {masks : MaskTable} (restricted : cursor.table = some masks)
    (valid : masks.IsValid) :
    cursor.piece.offset = 0 ∧ 0 < cursor.piece.length.toNat ∧
      cursor.piece.length.toNat ≤ max cursor.window.toNat 8 := by
  have inside := cursor.offset_lt_window
  obtain ⟨least, short⟩ := valid.toNat_minLength (cursor.offset + cursor.remaining)
  rw [eq_under restricted, piece_under]
  refine ⟨rfl, ?_⟩
  dsimp only
  split
  · rw [UInt64.sub_zero]
    change 0 < cursor.window.toNat ∧ cursor.window.toNat ≤ max cursor.window.toNat 8
    omega
  · change 0 < _ ∧ _ ≤ max cursor.window.toNat 8
    omega

theorem fits_piece (more : cursor.remaining ≠ 0)
    (below : cursor.next.toNat + cursor.remaining.toNat < 2 ^ 64) :
    cursor.piece.Fits cursor.window cursor.table := by
  obtain ⟨start, stop⟩ := watched_piece below
  have some := toNat_step_pos more
  have parts := cursor.base_add_offset
  have ends := cursor.step_le.2
  refine ⟨?_, ⟨?_, ?_⟩, fun exponent power => ?_, fun free => ?_, fun masks => masked_piece⟩
  · rw [Address.lt_iff_toNat_lt, start, stop]
    omega
  · rw [Address.le_iff_toNat_le, start]
    exact Nat.le.intro parts
  · rw [stop]
    exact Nat.le_trans ends (Nat.add_le_add_left (Nat.le_max_left _ _) _)
  · exact ⟨_, cursor.next.toNat_alignDown power⟩
  · have short := cursor.step_le.1
    have under : cursor.next.toNat + cursor.step.toNat < 2 ^ 64 := by omega
    rw [piece_of_free free]
    exact ⟨parts, (AddressRange.length_ofLength under).symm⟩

/-- Counted from zero, the window of the next piece has the next number. -/
theorem div_next_rest {exponent : Nat} (power : cursor.window.toNat = 2 ^ exponent)
    (below : cursor.next.toNat + cursor.remaining.toNat < 2 ^ 64)
    (more : cursor.rest.remaining ≠ 0) :
    cursor.rest.next.toNat / cursor.window.toNat =
      cursor.next.toNat / cursor.window.toNat + 1 := by
  have positive : 0 < cursor.window.toNat := by
    rw [power]
    exact Nat.two_pow_pos exponent
  rw [toNat_next_rest_of_more below more, Address.toNat_alignDown _ power, ← Nat.mul_succ,
    Nat.mul_div_cancel_left _ positive]

theorem followed_piece (below : cursor.next.toNat + cursor.remaining.toNat < 2 ^ 64)
    (more : cursor.rest.remaining ≠ 0) :
    cursor.piece.IsFollowedBy cursor.rest.piece cursor.window where
  adjacent := rfl
  consecutive _ power := by
    change (cursor.rest.next.alignDown cursor.window).toNat =
      (cursor.next.alignDown cursor.window).toNat + cursor.window.toNat
    rw [Address.toNat_alignDown _ power, Address.toNat_alignDown _ power,
      div_next_rest power below more, Nat.mul_succ]

end Steps

section Runs

/-- There is always an end of the pieces, and they are the same every time. -/
theorem yields_iff {pieces : List WatchPiece} : cursor.Yields pieces ↔ pieces = cursor.pieces := by
  constructor
  · intro yields
    induction yields with
    | done ended => rw [pieces_of_nothing (next?_eq_none_iff.mp ended)]
    | piece first _ ih =>
        obtain ⟨more, rfl, rfl⟩ := next?_eq_some_iff.mp first
        rw [pieces_of_more more, ih]
  · rintro rfl
    induction cursor using pieces.induct with
    | case1 cursor nothing =>
        rw [pieces_of_nothing nothing]
        exact .done (next?_eq_none_iff.mpr nothing)
    | case2 cursor more ih =>
        rw [pieces_of_more more]
        exact .piece (next?_eq_some_iff.mpr ⟨more, rfl, rfl⟩) ih

theorem Reaches.of_rest (more : cursor.remaining ≠ 0) (reached : cursor.rest.Reaches other) :
    cursor.Reaches other :=
  .later (next?_eq_some_iff.mpr ⟨more, rfl, rfl⟩) reached

theorem Reaches.sized (reached : cursor.Reaches other) :
    other.window = cursor.window ∧ other.table = cursor.table := by
  induction reached with
  | here => exact ⟨rfl, rfl⟩
  | later first _ ih =>
      obtain ⟨_, _, rfl⟩ := next?_eq_some_iff.mp first
      exact ih

/-- On the way through a range its end stays where it is. -/
theorem Reaches.ends (reached : cursor.Reaches other)
    (below : cursor.next.toNat + cursor.remaining.toNat < 2 ^ 64) :
    cursor.next.toNat ≤ other.next.toNat ∧
      other.next.toNat + other.remaining.toNat =
        cursor.next.toNat + cursor.remaining.toNat := by
  induction reached with
  | here => exact ⟨Nat.le_refl _, rfl⟩
  | @later cursor _ other _ first _ ih =>
      obtain ⟨_, _, rfl⟩ := next?_eq_some_iff.mp first
      have next := toNat_next_rest below
      rw [rest_end below] at ih
      obtain ⟨above, same⟩ := ih below
      exact ⟨by omega, same⟩

theorem Reaches.stays_below (reached : cursor.Reaches other)
    (below : cursor.next.toNat + cursor.remaining.toNat < 2 ^ 64) :
    other.next.toNat + other.remaining.toNat < 2 ^ 64 := by
  rwa [(reached.ends below).2]

/-- Every piece is the next one of a cursor that the first cursor comes to. -/
theorem exists_of_mem_pieces {piece : WatchPiece} (member : piece ∈ cursor.pieces) :
    ∃ other, cursor.Reaches other ∧ other.remaining ≠ 0 ∧ other.piece = piece := by
  induction cursor using pieces.induct with
  | case1 cursor nothing =>
      rw [pieces_of_nothing nothing] at member
      cases member
  | case2 cursor more ih =>
      rw [pieces_of_more more] at member
      rcases List.mem_cons.mp member with rfl | further
      · exact ⟨cursor, .here, more, rfl⟩
      · obtain ⟨other, reached, found⟩ := ih further
        exact ⟨other, .of_rest more reached, found⟩

/-- Nothing is left behind the last piece. -/
theorem exists_of_getLast?_pieces {piece : WatchPiece} (last : piece ∈ cursor.pieces.getLast?) :
    ∃ other, cursor.Reaches other ∧ other.rest.remaining = 0 ∧ other.piece = piece := by
  induction cursor using pieces.induct with
  | case1 cursor nothing =>
      rw [pieces_of_nothing nothing] at last
      cases last
  | case2 cursor more ih =>
      rw [pieces_of_more more] at last
      by_cases ended : cursor.rest.remaining = 0
      · rw [pieces_of_nothing ended] at last
        cases last
        exact ⟨cursor, .here, ended, rfl⟩
      · rw [pieces_of_more ended, List.getLast?_cons_cons, ← pieces_of_more ended] at last
        obtain ⟨other, reached, found⟩ := ih last
        exact ⟨other, .of_rest more reached, found⟩

theorem isChain_pieces {related : WatchPiece → WatchPiece → Prop}
    (each : ∀ other, cursor.Reaches other → other.rest.remaining ≠ 0 →
      related other.piece other.rest.piece) : cursor.pieces.IsChain related := by
  induction cursor using pieces.induct with
  | case1 cursor nothing =>
      rw [pieces_of_nothing nothing]
      exact .nil
  | case2 cursor more ih =>
      have later := ih fun other reached => each other (.of_rest more reached)
      rw [pieces_of_more more]
      by_cases ended : cursor.rest.remaining = 0
      · rw [pieces_of_nothing ended]
        exact .singleton _
      · rw [pieces_of_more ended] at later ⊢
        exact .cons_cons (each cursor .here ended) later

theorem increasing_pieces (below : cursor.next.toNat + cursor.remaining.toNat < 2 ^ 64) :
    cursor.pieces.Pairwise fun piece later => piece.watched.stop ≤ later.watched.start := by
  induction cursor using pieces.induct with
  | case1 cursor nothing =>
      rw [pieces_of_nothing nothing]
      exact .nil
  | case2 cursor more ih =>
      have under : cursor.rest.next.toNat + cursor.rest.remaining.toNat < 2 ^ 64 := by
        rwa [rest_end below]
      rw [pieces_of_more more]
      refine .cons (fun later member => ?_) (ih under)
      obtain ⟨other, reached, _, rfl⟩ := exists_of_mem_pieces member
      exact Address.le_iff_toNat_le.mpr (reached.ends under).1

end Runs

theorem tile_pieces (below : cursor.next.toNat + cursor.remaining.toNat < 2 ^ 64) :
    WatchPiece.Tile cursor.next cursor.remaining cursor.window cursor.table cursor.pieces where
  empty_iff := by
    by_cases nothing : cursor.remaining = 0
    · simp [pieces_of_nothing nothing, nothing]
    · simp [pieces_of_more nothing, nothing]
  first piece head := by
    by_cases nothing : cursor.remaining = 0
    · rw [pieces_of_nothing nothing] at head
      cases head
    · rw [pieces_of_more nothing] at head
      cases head
      rfl
  last piece last := by
    obtain ⟨other, reached, ended, rfl⟩ := exists_of_getLast?_pieces last
    have under := reached.stays_below below
    have ends := rest_end under
    have zero : other.rest.remaining.toNat = 0 := congrArg UInt64.toNat ended
    rw [(watched_piece under).2, ← toNat_next_rest under, ← (reached.ends below).2]
    omega
  fits piece member := by
    obtain ⟨other, reached, more, rfl⟩ := exists_of_mem_pieces member
    rw [← reached.sized.1, ← reached.sized.2]
    exact fits_piece more (reached.stays_below below)
  chain := isChain_pieces fun other reached more => by
    rw [← reached.sized.1]
    exact followed_piece (reached.stays_below below) more
  increasing := increasing_pieces below

/-- For windows of every size, be it zero or no power of two, and under any table, the
pieces of a range come to an end and tile it, and nothing goes round on the way. -/
theorem pieces_tile_range (address : Address) (length window : UInt64) (table : Option MaskTable)
    (below : address.toNat + length.toNat < 2 ^ 64) :
    (start address length window table).Yields (start address length window table).pieces ∧
      WatchPiece.Tile address length window table (start address length window table).pieces ∧
      ∀ other, (start address length window table).Reaches other → other.StaysInWords := by
  refine ⟨yields_iff.mpr rfl, ?_, fun other reached => ?_⟩
  · by_cases isZero : window = 0
    · subst isZero
      exact (@tile_pieces (start address length 0 table) below).of_one
    · have sized : start address length window table = ⟨address, length, window, table, isZero⟩ :=
        dif_neg isZero
      rw [sized]
      exact @tile_pieces ⟨address, length, window, table, isZero⟩ below
  · exact staysInWords (reached.stays_below (start_below below window table))

/-- Masking cuts windows of twelve bytes unevenly, here up to the last byte of memory that a
range can hold. -/
theorem pieces_tile_range_uneven :
    let address : Address := ⟨0xffffffffffffffe9⟩
    let pieces : List WatchPiece :=
      [⟨⟨0xffffffffffffffe0⟩, 9, 3, ⟨⟨0xffffffffffffffe9⟩, ⟨0xffffffffffffffec⟩⟩⟩,
        ⟨⟨0xffffffffffffffe4⟩, 8, 4, ⟨⟨0xffffffffffffffec⟩, ⟨0xfffffffffffffff0⟩⟩⟩,
        ⟨⟨0xfffffffffffffff0⟩, 0, 12, ⟨⟨0xfffffffffffffff0⟩, ⟨0xfffffffffffffffc⟩⟩⟩,
        ⟨⟨0xfffffffffffffff4⟩, 8, 3, ⟨⟨0xfffffffffffffffc⟩, ⟨0xffffffffffffffff⟩⟩⟩]
    address.toNat + (22 : UInt64).toNat < 2 ^ 64 ∧
      (start address 22 12 none).Yields pieces ∧
      WatchPiece.Tile address 22 12 none pieces ∧
      ∀ other, (start address 22 12 none).Reaches other → other.StaysInWords := by
  intro address pieces
  have below : address.toNat + (22 : UInt64).toNat < 2 ^ 64 := by decide
  have yields : (start address 22 12 none).Yields pieces := by
    iterate 4 refine .piece (next?_eq_some_iff.mpr ⟨by decide, by decide, rfl⟩) ?_
    exact .done (next?_eq_none_iff.mpr (by decide))
  obtain ⟨_, tile, stays⟩ := pieces_tile_range address 22 12 none below
  rw [← yields_iff.mp yields] at tile
  exact ⟨below, yields, tile, stays⟩

end WatchCursor

end DebugRegisters
