import DebugRegisters.Proofs.Encoding.Counting
import DebugRegisters.Proofs.Session.Capabilities
import DebugRegisters.Proofs.SlotTable.Room

/-!
# Ranges that can be watched

Before a watch is set, the debugger may ask whether its range can be watched at
all. The answer compares addresses and does not cut the range. With register
arrays it is yes exactly if the watch can be encoded.

On other kernels the answer may be yes for a watch that is refused: it is
about one window, and the encoding also depends on how many registers there are,
on windows for ranges that the hardware cannot register as such, and on masks for
windows that are too wide for them.
-/

set_option autoImplicit false

namespace DebugRegisters

theorem Word.toNat_pos {word : UInt64} (some : word ≠ 0) : 0 < word.toNat :=
  Nat.pos_of_ne_zero fun zero => some (UInt64.toNat_inj.mp zero)

namespace Capabilities

section Reach

variable {address : Address} {length window : UInt64} {exponent : Nat}

theorem fitsWindow_iff (power : window.toNat = 2 ^ exponent)
    (below : address.toNat + length.toNat < 2 ^ 64) (some : 0 < length.toNat) :
    fitsWindow address length window = true ↔
      windowsSpanned (.ofLength address length) window ≤ 1 := by
  have isWindow : window ≠ 0 := by
    rintro rfl
    exact absurd power.symm (Nat.ne_of_gt (Nat.two_pow_pos exponent))
  have first : (address.alignDown window).value.toNat = (address.alignDown window).toNat := rfl
  have start : address.value.toNat = address.toNat := rfl
  rw [AddressRange.windowsSpanned_le_iff power below some]
  simp only [fitsWindow, beq_eq_false_iff_ne.mpr isWindow, Bool.false_or, decide_eq_true_eq,
    UInt64.le_iff_toNat_le, Word.toNat_saturatingAdd, first, start]
  omega

variable (architecture : Architecture) (first second : Option UInt32)

theorem watchpointSlots_ofInfoWords_le :
    (ofInfoWords architecture first second).watchpointSlots ≤ Arm.maxSlots :=
  Facility.Supports.slots_le_of_ofWord second

/-- The registers reach the end of the range, one window each. -/
theorem canWatch_ofInfoWords_iff (below : address.toNat + length.toNat < 2 ^ 64) :
    (ofInfoWords architecture first second).canWatch address length = true ↔
      length ≠ 0 ∧ (ofInfoWords architecture first second).watchpointSlots ≠ 0 ∧
        windowsSpanned (.ofLength address length) 8 ≤
          (ofInfoWords architecture first second).watchpointSlots := by
  have few := watchpointSlots_ofInfoWords_le architecture first second
  have arrays : (ofInfoWords architecture first second).interface = .registerArray := rfl
  have size : (ofInfoWords architecture first second).maxWatchLength = 8 := rfl
  have window : (ofInfoWords architecture first second).alignment = 8 := rfl
  have base : (address.alignDown 8).value.toNat = (address.alignDown 8).toNat := rfl
  have start : address.value.toNat = address.toNat := rfl
  have eight : (8 : UInt64).toNat = 8 := rfl
  unfold canWatch
  simp only [arrays, size, window]
  by_cases nothing : length = 0
  · simp [nothing]
  have some := Word.toNat_pos nothing
  by_cases none : (ofInfoWords architecture first second).watchpointSlots = 0
  · simp [none]
  · rw [AddressRange.windowsSpanned_le_iff (show (8 : UInt64).toNat = 2 ^ 3 from rfl) below some]
    have slots : (UInt64.ofNat (ofInfoWords architecture first second).watchpointSlots).toNat =
        (ofInfoWords architecture first second).watchpointSlots :=
      UInt64.toNat_ofNat_of_lt' (Nat.lt_of_le_of_lt few (by decide))
    simp only [nothing, none, if_false, decide_eq_true_eq, UInt64.le_iff_toNat_le,
      Word.toNat_saturatingAdd, Word.toNat_saturatingMul, base, start, slots, eight]
    constructor
    · intro reach
      exact ⟨nothing, none, by omega⟩
    · rintro ⟨_, _, reach⟩
      omega

end Reach

/-- Kernels that take points one by one: what a reply describes, with windows whose
size is a power of two, and the single data breakpoint register. -/
inductive Pointwise : Capabilities → Prop where
  | reply {architecture : Architecture} {reply : Power.HardwareReply} {caps : Capabilities}
      (useful : ofReply? architecture reply = some caps)
      (aligned : reply.dataAlignment = 0 ∨
        ∃ exponent, reply.dataAlignment.toNat = 2 ^ exponent) : Pointwise caps
  | legacy (architecture : Architecture) : Pointwise (.legacy architecture)

namespace Pointwise

variable {caps : Capabilities} {address : Address} {length : UInt64}

theorem interface_eq (pointwise : caps.Pointwise) :
    caps.interface = .handles ∨ caps.interface = .legacy ∧ caps.rangeWindow = none := by
  cases pointwise with
  | reply useful => exact .inl (Facility.Supports.interface_of_reply useful)
  | legacy => exact .inr ⟨rfl, rfl⟩

theorem driven (pointwise : caps.Pointwise) : caps.interface ≠ .unavailable := by
  rcases pointwise.interface_eq with handles | ⟨single, _⟩
  · simp [handles]
  · simp [single]

theorem exists_alignment (pointwise : caps.Pointwise) :
    ∃ exponent, caps.alignment.toNat = 2 ^ exponent := by
  cases pointwise with
  | @reply architecture reply _ useful aligned =>
      unfold ofReply? at useful
      split at useful
      · cases useful
      · cases useful
        rcases aligned with zero | ⟨exponent, power⟩
        · exact ⟨3, by simp [zero]⟩
        · have some : reply.dataAlignment ≠ 0 := by
            intro zero
            rw [zero] at power
            exact absurd power.symm (Nat.ne_of_gt (Nat.two_pow_pos exponent))
          exact ⟨exponent, by simp [some, power]⟩
  | legacy architecture =>
      cases booke : architecture.isBookE with
      | false => exact ⟨3, by simp [Capabilities.legacy, booke]⟩
      | true => exact ⟨2, by simp [Capabilities.legacy, booke]⟩

theorem exists_window (pointwise : caps.Pointwise) :
    ∃ exponent, (caps.rangeWindow.getD caps.alignment).toNat = 2 ^ exponent := by
  cases pointwise with
  | @reply architecture reply _ useful aligned =>
      have narrow := (Pointwise.reply useful aligned).exists_alignment
      unfold ofReply? at useful
      split at useful
      · cases useful
      · cases useful
        dsimp only at narrow ⊢
        split
        · exact ⟨9, rfl⟩
        · exact narrow
  | legacy architecture => exact (Pointwise.legacy architecture).exists_alignment

/-- Unless the range is registered whole, it must lie in one window. -/
theorem canWatch_iff (pointwise : caps.Pointwise)
    (below : address.toNat + length.toNat < 2 ^ 64) :
    caps.canWatch address length = true ↔
      length ≠ 0 ∧ (caps.usesRanges length = true ∧ caps.rangeWindow = none ∨
        windowsSpanned (.ofLength address length)
          (caps.rangeWindow.getD caps.alignment) ≤ 1) := by
  obtain ⟨exponent, power⟩ := pointwise.exists_window
  unfold canWatch
  by_cases nothing : length = 0
  · simp [nothing]
  have some := Word.toNat_pos nothing
  rw [← fitsWindow_iff power below some]
  rcases pointwise.interface_eq with handles | ⟨single, none⟩
  · cases caps.usesRanges length <;> cases caps.rangeWindow <;> simp [nothing, handles]
  · have plain : caps.usesRanges length = false := by simp [usesRanges, single]
    simp [nothing, single, none, plain]

end Pointwise

/-- What it takes to watch a range that lies in one window, beyond that: a register;
two of them where a range needs no window; enough of them where the window is one for
ranges and the range cannot be registered as such; and masks for windows that are
wider than a mask. -/
structure Accommodates (caps : Capabilities) (request : PointRequest)
    (table : Option MaskTable) : Prop where
  slots : caps.watchpointSlots ≠ 0
  bounds (ranged : caps.usesRanges request.length = true) (free : caps.rangeWindow = none) :
    2 ≤ caps.watchpointSlots
  windows (plain : caps.usesRanges request.length = false) (wide : caps.rangeWindow ≠ none) :
    windowsSpanned request.range caps.alignment ≤ caps.watchpointSlots
  masks (plain : caps.usesRanges request.length = false) (select : caps.has .byteSelect = true)
    (long : 8 < caps.alignment.toNat) :
    ∀ piece ∈ (WatchCursor.start request.address request.length caps.alignment table).pieces,
      piece.offset.toNat + piece.length.toNat ≤ 8

namespace Accommodates

variable {caps : Capabilities} {request : PointRequest} {table : Option MaskTable}

theorem iff_of_whole (there : caps.watchpointSlots ≠ 0)
    (ranged : caps.usesRanges request.length = true) (free : caps.rangeWindow = none) :
    caps.Accommodates request table ↔ 2 ≤ caps.watchpointSlots := by
  constructor
  · intro accommodates
    exact accommodates.bounds ranged free
  · intro two
    refine ⟨there, fun _ _ => two, fun plain => ?_, fun plain => ?_⟩
    · simp [ranged] at plain
    · simp [ranged] at plain

theorem of_ranges (there : caps.watchpointSlots ≠ 0)
    (ranged : caps.usesRanges request.length = true) (wide : caps.rangeWindow ≠ none) :
    caps.Accommodates request table := by
  refine ⟨there, fun _ free => absurd free wide, fun plain => ?_, fun plain => ?_⟩
  · simp [ranged] at plain
  · simp [ranged] at plain

end Accommodates

theorem accommodates_legacy (architecture : Architecture) (request : PointRequest)
    (table : Option MaskTable) : (legacy architecture).Accommodates request table where
  slots := Nat.one_ne_zero
  bounds ranged := by simp [usesRanges, legacy] at ranged
  windows _ wide := absurd rfl wide
  masks _ select := by
    have none : (legacy architecture).has .byteSelect = false :=
      show Features.empty.contains .byteSelect = false by decide
    rw [none] at select
    cases select

theorem Pointwise.accommodates {caps : Capabilities} (pointwise : caps.Pointwise)
    (single : caps.interface = .legacy) (request : PointRequest) (table : Option MaskTable) :
    caps.Accommodates request table := by
  cases pointwise with
  | reply useful =>
      rw [Facility.Supports.interface_of_reply useful] at single
      cases single
  | legacy architecture => exact accommodates_legacy architecture request table

end Capabilities

namespace Encoding

variable {request : PointRequest} {caps : Capabilities} {options : EncodeOptions}

theorem slots_of_isWatchpoint {kind : PointKind} (caps : Capabilities)
    (watch : kind.isWatchpoint = true) : caps.slots kind.bank = caps.watchpointSlots := by
  rw [PointKind.bank_of_isWatchpoint watch]
  rfl

section Arrays

variable (architecture : Architecture) (first second : Option UInt32)

/-- With register arrays every piece has a mask. -/
theorem exists_piecePoint_ofInfoWords (kind : PointKind) {table : Option MaskTable}
    (valid : ∀ masks, table = some masks → masks.IsValid) (address : Address) (length : UInt64) :
    ∀ piece ∈ (WatchCursor.start address length 8 table).pieces,
      ∃ point, piecePoint kind (.ofInfoWords architecture first second) false piece =
        .ok point := by
  have each := forall_exists_piecePoint_iff valid kind (.ofInfoWords architecture first second)
    address length
  rw [Capabilities.has_byteSelect, if_pos rfl] at each
  refine each.mpr fun _ long => absurd long ?_
  change ¬8 < (8 : UInt64).toNat
  decide

theorem length_pieces_eight (below : request.address.toNat + request.length.toNat < 2 ^ 64)
    (some : request.length ≠ 0) (table : Option MaskTable) :
    (WatchCursor.start request.address request.length 8 table).pieces.length =
      windowsSpanned request.range 8 :=
  WatchCursor.length_pieces_start (show (8 : UInt64).toNat = 2 ^ 3 from rfl) below
    (Word.toNat_pos some) table

theorem exists_encode_ofInfoWords_iff_length
    (valid : ∀ masks, options.table = some masks → masks.IsValid)
    (watch : request.kind.isWatchpoint = true) (some : request.length ≠ 0)
    (there : (Capabilities.ofInfoWords architecture first second).watchpointSlots ≠ 0) :
    (∃ points, encode request (.ofInfoWords architecture first second) options = .ok points) ↔
      (WatchCursor.start request.address request.length 8 options.table).pieces.length ≤
        (Capabilities.ofInfoWords architecture first second).watchpointSlots := by
  have driven : (Capabilities.ofInfoWords architecture first second).interface ≠ .unavailable := by
    simp [Capabilities.ofInfoWords]
  have window : (Capabilities.ofInfoWords architecture first second).alignment = 8 := rfl
  have slots := slots_of_isWatchpoint (.ofInfoWords architecture first second) watch
  have each := exists_piecePoint_ofInfoWords architecture first second request.kind valid
    request.address request.length
  rw [exists_encode_windows_iff driven (by rwa [slots]) watch some rfl, window, slots,
    Capabilities.has_byteSelect, if_pos rfl]
  exact and_iff_left each

theorem exists_encode_ofInfoWords_iff
    (valid : ∀ masks, options.table = some masks → masks.IsValid)
    (watch : request.kind.isWatchpoint = true)
    (below : request.address.toNat + request.length.toNat < 2 ^ 64) :
    (∃ points, encode request (.ofInfoWords architecture first second) options = .ok points) ↔
      (Capabilities.ofInfoWords architecture first second).canWatch request.address
        request.length = true := by
  have slots := slots_of_isWatchpoint (.ofInfoWords architecture first second) watch
  have cut := @exists_encode_ofInfoWords_iff_length request options architecture first second valid
    watch
  rw [Capabilities.canWatch_ofInfoWords_iff architecture first second below]
  constructor
  · rintro ⟨points, encoded⟩
    have there := slots_ne_zero_of_encode encoded
    have some := length_ne_zero_of_encode encoded watch
    rw [slots] at there
    have room := (cut some there).mp ⟨points, encoded⟩
    rw [length_pieces_eight below some] at room
    exact ⟨some, there, room⟩
  · rintro ⟨some, there, room⟩
    refine (cut some there).mpr ?_
    rwa [length_pieces_eight below some]

/-- The error for a watch with too many pieces counts them all, although cutting stops
before. -/
theorem encode_ofInfoWords_overflow
    (valid : ∀ masks, options.table = some masks → masks.IsValid)
    (watch : request.kind.isWatchpoint = true)
    (below : request.address.toNat + request.length.toNat < 2 ^ 64) (some : request.length ≠ 0)
    (there : (Capabilities.ofInfoWords architecture first second).watchpointSlots ≠ 0)
    {error : PointError}
    (refused : encode request (.ofInfoWords architecture first second) options = .error error) :
    error = .capacityExceeded request.kind
      (WatchCursor.start request.address request.length 8 options.table).pieces.length
      (Capabilities.ofInfoWords architecture first second).watchpointSlots := by
  have driven : (Capabilities.ofInfoWords architecture first second).interface ≠ .unavailable := by
    simp [Capabilities.ofInfoWords]
  have window : (Capabilities.ofInfoWords architecture first second).alignment = 8 := rfl
  have slots := slots_of_isWatchpoint (.ofInfoWords architecture first second) watch
  have each := exists_piecePoint_ofInfoWords architecture first second request.kind valid
    request.address request.length
  have short : (Capabilities.ofInfoWords architecture first second).watchpointSlots <
      (WatchCursor.start request.address request.length 8 options.table).pieces.length := by
    by_contra room
    obtain ⟨points, encoded⟩ := (exists_encode_ofInfoWords_iff_length architecture first second
      valid watch some there).mpr (Nat.le_of_not_lt room)
    rw [refused] at encoded
    cases encoded
  have overflow := @encode_windows_overflow request (.ofInfoWords architecture first second) options
    driven (by rwa [slots]) watch some rfl
  rw [window, slots, Capabilities.has_byteSelect, if_pos rfl, refused,
    ← length_pieces_eight below some options.table] at overflow
  exact Except.error.inj (overflow each short)

end Arrays

/-- An encoded watch fits an empty bank. -/
theorem exists_encode_fits_iff (watch : request.kind.isWatchpoint = true) :
    (∃ points, encode request caps options = .ok points ∧
      (SlotTable.empty .watchpoints caps.watchpointSlots).canAccept points = .ok ()) ↔
      ∃ points, encode request caps options = .ok points := by
  have slots := slots_of_isWatchpoint caps watch
  constructor
  · rintro ⟨points, encoded, _⟩
    exact ⟨points, encoded⟩
  · rintro ⟨points, encoded⟩
    have room := (watches_of_encode encoded watch).sum_cost_le
    rw [slots] at room
    exact ⟨points, encoded, SlotTable.canAccept_empty_iff.mpr room⟩

section Accommodating

variable (pointwise : caps.Pointwise) (watch : request.kind.isWatchpoint = true)
  (below : request.address.toNat + request.length.toNat < 2 ^ 64)
  (checked : caps.canWatch request.address request.length = true)
  (there : caps.watchpointSlots ≠ 0)

include pointwise watch below checked there

/-- A range that the hardware can register needs two registers, or a window for ranges
that it lies in. -/
theorem exists_encode_iff_accommodates_of_ranged
    (ranged : caps.usesRanges request.length = true) :
    (∃ points, encode request caps options = .ok points) ↔
      caps.Accommodates request options.table := by
  obtain ⟨some, reach⟩ := (pointwise.canWatch_iff below).mp checked
  have slots := slots_of_isWatchpoint caps watch
  have driven := pointwise.driven
  cases wide : caps.rangeWindow with
  | none =>
      rw [exists_encode_whole_iff driven (by rwa [slots]) watch ranged wide, slots,
        Capabilities.Accommodates.iff_of_whole there ranged wide]
  | some window =>
      obtain ⟨exponent, power⟩ := pointwise.exists_window
      rw [wide, Option.getD_some] at power reach
      have one := reach.resolve_left fun whole => by cases whole.2
      have accommodates : caps.Accommodates request options.table :=
        .of_ranges there ranged (by simp [wide])
      rw [exists_encode_ranges_iff driven (by rwa [slots]) watch ranged wide, slots,
        WatchCursor.length_pieces_start power below (Word.toNat_pos some)]
      exact iff_of_true (by omega) accommodates

/-- Any other range is cut at the alignment, also where there is a wider window. -/
theorem exists_encode_iff_accommodates_of_plain
    (valid : ∀ table, options.table = some table → table.IsValid)
    (plain : caps.usesRanges request.length = false) :
    (∃ points, encode request caps options = .ok points) ↔
      caps.Accommodates request options.table := by
  obtain ⟨some, reach⟩ := (pointwise.canWatch_iff below).mp checked
  obtain ⟨exponent, power⟩ := pointwise.exists_alignment
  have slots := slots_of_isWatchpoint caps watch
  rw [exists_encode_windows_iff pointwise.driven (by rwa [slots]) watch some plain, slots,
    WatchCursor.length_pieces_start power below (Word.toNat_pos some),
    forall_exists_piecePoint_iff valid]
  constructor
  · rintro ⟨room, masks⟩
    refine ⟨there, fun ranged => ?_, fun _ _ => room, fun _ => masks⟩
    simp [plain] at ranged
  · intro accommodates
    refine ⟨?_, accommodates.masks plain⟩
    cases wide : caps.rangeWindow with
    | some window => exact accommodates.windows plain (by simp [wide])
    | none =>
        simp only [plain, Bool.false_eq_true, false_and, false_or, wide, Option.getD_none] at reach
        exact Nat.le_trans reach (Nat.pos_of_ne_zero there)

end Accommodating

/-- A range that may be watched is encoded, and fits an empty bank, exactly if the
hardware accommodates it. -/
theorem exists_encode_fits_iff_accommodates (pointwise : caps.Pointwise)
    (valid : ∀ table, options.table = some table → table.IsValid)
    (watch : request.kind.isWatchpoint = true)
    (below : request.address.toNat + request.length.toNat < 2 ^ 64)
    (checked : caps.canWatch request.address request.length = true) :
    (∃ points, encode request caps options = .ok points ∧
      (SlotTable.empty .watchpoints caps.watchpointSlots).canAccept points = .ok ()) ↔
      caps.Accommodates request options.table := by
  rw [exists_encode_fits_iff watch]
  by_cases there : caps.watchpointSlots = 0
  · refine iff_of_false ?_ fun accommodates => accommodates.slots there
    rintro ⟨points, encoded⟩
    have some := slots_ne_zero_of_encode encoded
    rw [slots_of_isWatchpoint caps watch] at some
    exact some there
  · cases ranged : caps.usesRanges request.length with
    | true => exact exists_encode_iff_accommodates_of_ranged pointwise watch below checked there ranged
    | false =>
        exact exists_encode_iff_accommodates_of_plain pointwise watch below checked there valid ranged

end Encoding

theorem Restriction.isValid_of_table? {restriction : Restriction}
    (valid : restriction.table.IsValid) :
    ∀ table, restriction.table? = some table → table.IsValid := by
  intro table inForce
  unfold table? at inForce
  split at inForce
  · cases inForce
  · cases inForce
    exact valid

namespace Session

variable {κ : Type} [Kernel κ] {session : Session κ} {request : PointRequest}

theorem canWatch_eq (session : Session κ) (address : Address) (length : UInt64) :
    (session.canWatch address length).1 = session.capabilities.1.canWatch address length := by
  unfold canWatch Capabilities.canWatch
  split <;> rfl

/-- With register arrays a range can be watched exactly if the watch of it can be
encoded, whether or not byte masks are restricted. A watch that is refused although
there are registers has more pieces than registers: no piece is without a mask. -/
theorem watchable_iff_encoded {architecture : Architecture} {first second : Option UInt32}
    (arrays : session.capabilities.1 = .ofInfoWords architecture first second)
    (valid : session.restriction.table.IsValid) (watch : request.kind.isWatchpoint = true)
    (below : request.address.toNat + request.length.toNat < 2 ^ 64)
    (comparator : Option Comparator) :
    let caps := session.capabilities.1
    let pieces := (WatchCursor.start request.address request.length caps.alignment
      session.restriction.table?).pieces
    ((session.canWatch request.address request.length).1 = true ↔
      ∃ points, session.encodeRequest request caps comparator = .ok points) ∧
    (0 < request.length → 0 < caps.watchpointSlots → ∀ error,
      session.encodeRequest request caps comparator = .error error →
      error = .capacityExceeded request.kind pieces.length caps.watchpointSlots) ∧
    ∀ piece ∈ pieces, ∃ point, Encoding.piecePoint request.kind caps false piece = .ok point := by
  rw [canWatch_eq, arrays]
  have masks := Restriction.isValid_of_table? valid
  refine ⟨?_, fun some there error refused => ?_, ?_⟩
  · exact (Encoding.exists_encode_ofInfoWords_iff architecture first second masks watch below).symm
  · have positive : request.length ≠ 0 := fun zero => by simp [zero] at some
    exact Encoding.encode_ofInfoWords_overflow architecture first second masks watch below positive
      (Nat.ne_of_gt there) refused
  · exact Encoding.exists_piecePoint_ofInfoWords architecture first second request.kind masks
      request.address request.length

/-- Twelve bytes touch three windows, and there are two registers. A mask table is in
force. -/
theorem watchable_iff_encoded_restricted :
    let session := Session.start (SimulatedKernel.withArrays 2 2) ⟨100⟩
      { Settings.standard with assumesRestriction := true } none
    let request := PointRequest.watch .write ⟨0x1006⟩ 12
    session.restriction.table? = some .standard ∧
      (session.canWatch request.address request.length).1 = false ∧
      session.encodeRequest request session.capabilities.1 none =
        .error (.capacityExceeded .write 3 2) := by
  intro session request
  have arrays : session.capabilities.1 = .ofInfoWords .aarch64 (some (Arm.InfoWord.ofSlots 2))
      (some (Arm.InfoWord.ofSlots 2)) := rfl
  have valid : session.restriction.table.IsValid := ⟨[0x01, 0x03, 0x0f, 0xff], by decide⟩
  have watch : request.kind.isWatchpoint = true := rfl
  have below : request.address.toNat + request.length.toNat < 2 ^ 64 := by decide
  obtain ⟨exact, refusal, _⟩ := watchable_iff_encoded arrays valid watch below none
  have no : (session.canWatch request.address request.length).1 = false := by decide +kernel
  have three := Encoding.length_pieces_eight below (by decide) session.restriction.table?
  refine ⟨rfl, no, ?_⟩
  cases outcome : session.encodeRequest request session.capabilities.1 none with
  | ok points =>
      rw [exact.mpr ⟨points, outcome⟩] at no
      cases no
  | error cause =>
      rw [refusal (by decide) (by decide +kernel) cause outcome]
      change Except.error (PointError.capacityExceeded .write
        (WatchCursor.start request.address request.length 8 session.restriction.table?).pieces.length
        2) = _
      rw [three]
      decide +kernel

/-- On a kernel that takes points one by one, a range that may be watched is encoded and
fits an empty bank exactly if the hardware accommodates it. The single data breakpoint
register accommodates every such range. -/
theorem watchable_fits_iff_accommodated (pointwise : session.capabilities.1.Pointwise)
    (valid : session.restriction.table.IsValid) (watch : request.kind.isWatchpoint = true)
    (below : request.address.toNat + request.length.toNat < 2 ^ 64)
    (watchable : (session.canWatch request.address request.length).1 = true)
    (comparator : Option Comparator) :
    let caps := session.capabilities.1
    ((∃ points, session.encodeRequest request caps comparator = .ok points ∧
        (SlotTable.empty .watchpoints caps.watchpointSlots).canAccept points = .ok ()) ↔
      caps.Accommodates request session.restriction.table?) ∧
    (caps.interface = .legacy → caps.Accommodates request session.restriction.table?) := by
  intro caps
  rw [canWatch_eq] at watchable
  constructor
  · exact @Encoding.exists_encode_fits_iff_accommodates request caps
      ⟨session.restriction.table?, comparator⟩ pointwise (Restriction.isValid_of_table? valid) watch
      below watchable
  · intro single
    exact pointwise.accommodates single request session.restriction.table?

/-- Two windows of eight bytes in a wide one. The hardware cannot register ranges, so it
takes two registers. -/
theorem watchable_fits_iff_accommodated_two_windows :
    let reply : Power.HardwareReply :=
      { version := 1, instructionPoints := 0, dataPoints := 2, comparators := 0,
        dataAlignment := 8, comparatorWidth := 0, features := 0x10 }
    let session := Session.start (SimulatedKernel.withHandles false reply) ⟨100⟩ .standard none
    let request := PointRequest.watch .write ⟨0x1006⟩ 4
    (session.canWatch request.address request.length).1 = true ∧
      ∃ points, session.encodeRequest request session.capabilities.1 none = .ok points ∧
        (SlotTable.empty .watchpoints 2).canAccept points = .ok () := by
  intro reply session request
  have useful : Capabilities.ofReply? .powerpc reply = some session.capabilities.1 := rfl
  have pointwise : session.capabilities.1.Pointwise := .reply useful (.inr ⟨3, rfl⟩)
  have valid : session.restriction.table.IsValid := ⟨[0x01, 0x03, 0x0f, 0xff], by decide⟩
  have watch : request.kind.isWatchpoint = true := rfl
  have below : request.address.toNat + request.length.toNat < 2 ^ 64 := by decide
  have yes : (session.canWatch request.address request.length).1 = true := by decide +kernel
  have accommodates : session.capabilities.1.Accommodates request session.restriction.table? :=
    ⟨by decide +kernel, fun _ _ => by decide +kernel, fun _ _ => by decide +kernel,
      fun _ select => absurd select (by decide +kernel)⟩
  exact ⟨yes, (watchable_fits_iff_accommodated pointwise valid watch below yes none).1.mpr
    accommodates⟩

/-- A reply may describe no data register at all. Every range inside a window may then
be watched, it is said, and no watch can be encoded. -/
theorem watchable_without_registers :
    let reply : Power.HardwareReply :=
      { version := 1, instructionPoints := 2, dataPoints := 0, comparators := 0,
        dataAlignment := 8, comparatorWidth := 0, features := 0x1 }
    let session := Session.start (SimulatedKernel.withHandles false reply) ⟨100⟩ .standard none
    let request := PointRequest.watch .write ⟨0x1000⟩ 4
    Capabilities.ofReply? .powerpc reply = some session.capabilities.1 ∧
      (session.canWatch request.address request.length).1 = true ∧
      session.encodeRequest request session.capabilities.1 none =
        .error (.unsupported (.slots .write .powerpc)) := by
  intro reply session request
  exact ⟨rfl, by decide +kernel, by decide +kernel⟩

end Session

end DebugRegisters
