import DebugRegisters.Proofs.Encoding.Restricted
import Mathlib.Algebra.Group.Nat.Defs

/-!
# The bytes that a request watches

With register arrays and free masks, the points of a watch select exactly the
bytes of the request, as long as it does not go round the address space. Under a
mask table they still select all of these.
-/

set_option autoImplicit false

namespace DebugRegisters

namespace ByteMask

theorem selects_ofRun? {offset length : Nat} {mask : ByteMask}
    (run : ofRun? offset length = some mask) (byte : Nat) :
    mask.selects byte = true ↔ offset ≤ byte ∧ byte < offset + length := by
  unfold ofRun? at run
  split at run
  · cases run
  · next inside =>
      cases run
      have bounded : (1 <<< length - 1) <<< offset < 2 ^ 8 := by
        rw [Nat.one_shiftLeft, Nat.shiftLeft_eq]
        have whole : 2 ^ length * 2 ^ offset ≤ 2 ^ 8 := by
          rw [← Nat.pow_add]
          exact Nat.pow_le_pow_right (by decide) (by omega)
        have power := Nat.two_pow_pos offset
        rw [Nat.sub_mul]
        omega
      unfold selects
      rw [UInt8.toNat_ofNat_of_lt' bounded, Nat.testBit_shiftLeft, Nat.one_shiftLeft,
        Nat.testBit_two_pow_sub_one]
      simp only [ge_iff_le, Bool.and_eq_true, decide_eq_true_eq]
      omega

end ByteMask

/-- The hardware traps on the byte: the point's window is the one around the
byte, and its mask selects the byte there. -/
def EncodedPoint.Selects (point : EncodedPoint) (byte : Nat) : Prop :=
  ∃ mask, point.span = .bytes mask ∧ point.address.toNat = byte - byte % 8 ∧
    mask.selects (byte % 8) = true

theorem EncodedPoint.Selects.restrict {table : MaskTable} (valid : table.IsValid)
    {point : EncodedPoint} {byte : Nat} (selects : point.Selects byte) :
    (table.restrict point).Selects byte := by
  obtain ⟨mask, masked, window, selected⟩ := selects
  rw [MaskTable.restrict_of_bytes valid masked]
  exact ⟨table.roundUp mask, rfl, window, MaskTable.isWithin_roundUp valid mask _ selected⟩

namespace Encoding

variable {kind : PointKind} {architecture : Architecture} {first second : Option UInt32}

theorem selects_maskedPoint_iff {cursor : WatchCursor} (window : cursor.window = 8)
    {mask : ByteMask} (run : ByteMask.ofRun? cursor.offset.toNat cursor.step.toNat = some mask)
    (byte : Nat) :
    (maskedPoint kind cursor mask).Selects byte ↔
      cursor.next.toNat ≤ byte ∧ byte < cursor.next.toNat + cursor.step.toNat := by
  have offset : cursor.offset.toNat = cursor.next.toNat % 8 := by
    unfold WatchCursor.offset
    rw [window, Address.toNat_offsetIn_eight]
  have base : (maskedPoint kind cursor mask).address.toNat =
      cursor.next.toNat - cursor.next.toNat % 8 := by
    change (cursor.next.alignDown cursor.window).toNat = _
    rw [window, Address.toNat_alignDown_eight]
  have below := WatchCursor.toNat_step_eight window
  have selected := ByteMask.selects_ofRun? run
  rw [offset] at below selected
  constructor
  · rintro ⟨other, masked, same, chosen⟩
    cases masked
    have inside := (selected _).mp chosen
    rw [base] at same
    omega
  · rintro ⟨after, before⟩
    refine ⟨mask, rfl, ?_, (selected _).mpr ⟨?_, ?_⟩⟩
    · rw [base]
      omega
    · omega
    · omega

/-- The points of the pieces from a cursor on select what is left of the range. -/
theorem Cuts.selects_iff {cursor : WatchCursor} {points : List EncodedPoint}
    (cut : Cuts (piecePoint kind (.ofInfoWords architecture first second) false) cursor points)
    (free : cursor.table = none) (window : cursor.window = 8)
    (fits : cursor.next.toNat + cursor.remaining.toNat ≤ 2 ^ 64) (byte : Nat) :
    (∃ point ∈ points, point.Selects byte) ↔
      cursor.next.toNat ≤ byte ∧ byte < cursor.next.toNat + cursor.remaining.toNat := by
  induction cut with
  | @done cursor nothing =>
      have zero : cursor.remaining.toNat = 0 := by rw [nothing]; rfl
      constructor
      · rintro ⟨point, member, _⟩
        cases member
      · omega
  | @piece cursor point points more encoded rest ih =>
      obtain ⟨mask, run, freely⟩ :=
        piecePoint_free kind (Capabilities.has_byteSelect architecture first second) free
          (by rw [window]; decide) more
      rw [freely] at encoded
      cases encoded
      have here := @selects_maskedPoint_iff kind cursor window mask run byte
      have step := WatchCursor.toNat_step_eight window
      have left := cursor.toNat_remaining_rest
      have next : cursor.rest.next.toNat =
          min (cursor.next.toNat + cursor.step.toNat) 0xffffffffffffffff :=
        Address.toNat_advanceSaturating _ _
      have later := ih free window (by omega)
      constructor
      · rintro ⟨point, member, selects⟩
        rcases List.mem_cons.mp member with rfl | further
        · have inside := here.mp selects
          omega
        · have inside := later.mp ⟨point, further, selects⟩
          omega
      · rintro ⟨after, before⟩
        by_cases now : byte < cursor.next.toNat + cursor.step.toNat
        · exact ⟨_, List.mem_cons_self, here.mpr ⟨after, now⟩⟩
        · obtain ⟨point, further, selects⟩ := later.mpr ⟨by omega, by omega⟩
          exact ⟨point, List.mem_cons_of_mem _ further, selects⟩

/-- A watch is cut into pieces from its first byte on. -/
theorem cuts_of_encode {request : PointRequest} {points : List EncodedPoint}
    (encoded : encode request (.ofInfoWords architecture first second) ⟨none, none⟩ = .ok points)
    (data : request.kind.isWatchpoint = true) :
    Cuts (piecePoint request.kind (.ofInfoWords architecture first second) false)
      (.start request.address request.length 8 none) points := by
  unfold encode at encoded
  dsimp only at encoded
  split at encoded
  · cases encoded
  · rw [watchpoint_ofInfoWords] at encoded
    split at encoded
    · cases encoded
    · obtain ⟨pieces, cut, rfl⟩ := ok_of_map encoded
      have cuts := cuts_of_piecePoints cut
      rwa [attachComparator_none (cuts.all fun piece point encoded => (piecePoint_shape encoded).2.1)]

/-- The points of a watch select the bytes of the request and no others. -/
theorem selects_iff_of_encode {request : PointRequest} {points : List EncodedPoint}
    (encoded : encode request (.ofInfoWords architecture first second) ⟨none, none⟩ = .ok points)
    (data : request.kind.isWatchpoint = true)
    (fits : request.address.toNat + request.length.toNat ≤ 2 ^ 64) (byte : Nat) :
    (∃ point ∈ points, point.Selects byte) ↔
      request.address.toNat ≤ byte ∧ byte < request.address.toNat + request.length.toNat :=
  (cuts_of_encode encoded data).selects_iff rfl rfl fits byte

/-- Under a mask table too, every byte of the request is selected. -/
theorem selects_of_encode {request : PointRequest} {table : Option MaskTable}
    (valid : ∀ masks, table = some masks → masks.IsValid) {points : List EncodedPoint}
    (encoded : encode request (.ofInfoWords architecture first second) ⟨table, none⟩ = .ok points)
    (data : request.kind.isWatchpoint = true)
    (fits : request.address.toNat + request.length.toNat ≤ 2 ^ 64) {byte : Nat}
    (inside : request.address.toNat ≤ byte ∧
      byte < request.address.toNat + request.length.toNat) :
    ∃ point ∈ points, point.Selects byte := by
  cases table with
  | none => exact (selects_iff_of_encode encoded data fits byte).mpr inside
  | some masks =>
      have lawful := valid masks rfl
      rw [encode_restricted lawful] at encoded
      obtain ⟨free, freely, rfl⟩ := ok_of_map encoded
      obtain ⟨point, member, selects⟩ := (selects_iff_of_encode freely data fits byte).mpr inside
      refine ⟨masks.restrictWatch point, List.mem_map_of_mem member, ?_⟩
      rw [MaskTable.restrictWatch, (plain_encode freely).kinds point member, if_pos data]
      exact selects.restrict lawful

/-- With register arrays a breakpoint is one point with the mask of its instruction. -/
theorem breakpoint_of_encode {request : PointRequest} {table : Option MaskTable}
    {points : List EncodedPoint}
    (encoded : encode request (.ofInfoWords architecture first second) ⟨table, none⟩ = .ok points)
    (code : request.kind = .execute) :
    ∃ length point, instructionLength request.instructionLength architecture = .ok length ∧
      points = [point] ∧ point.kind = .execute ∧ point.address = request.address ∧
      point.span = .bytes (Arm.breakpointMask length) := by
  have noWatch : ¬request.kind.isWatchpoint = true := by
    rw [code]
    decide
  unfold encode at encoded
  dsimp only at encoded
  split at encoded
  · cases encoded
  · unfold breakpoint at encoded
    split at encoded
    · cases encoded
    · split at encoded
      · have refused : rangedBreakpoint request (.ofInfoWords architecture first second) =
            .error (.unsupported .rangedBreakpoints) := rfl
        rw [refused] at encoded
        cases encoded
      · unfold instructionBreakpoint at encoded
        split at encoded
        · cases encoded
        · next length found =>
            cases encoded
            exact ⟨length, _, found, rfl, rfl, rfl, rfl⟩

end Encoding

end DebugRegisters
