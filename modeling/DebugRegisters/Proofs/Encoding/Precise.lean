import DebugRegisters.Proofs.Encoding.Coverage
import DebugRegisters.Proofs.SlotTable.Slotwise

/-!
# Points with exact masks

With free masks, the mask of a watch says no more than which bytes the point
stands for. So no two such points become equal when they are restricted to a
mask table, as long as no watch reaches the end of the address space.
-/

set_option autoImplicit false

namespace DebugRegisters

/-- The mask of a watch selects the bytes that the point stands for. -/
def EncodedPoint.IsPrecise (point : EncodedPoint) : Prop :=
  point.kind.isWatchpoint = true → ∃ mask, point.span = .bytes mask ∧
    ByteMask.ofRun? (point.watched.start.toNat - point.address.toNat)
      (point.watched.stop.toNat - point.watched.start.toNat) = some mask

def PointRequest.EndsBelow (request : PointRequest) : Prop :=
  request.kind.isWatchpoint = true → request.address.toNat + request.length.toNat < 2 ^ 64

instance (request : PointRequest) : Decidable request.EndsBelow :=
  inferInstanceAs (Decidable (_ → _))

theorem MaskTable.restrictWatch_eq (table : MaskTable) (point : EncodedPoint) :
    ∃ span, table.restrictWatch point = { point with span } := by
  unfold restrictWatch
  split
  · exact table.restrict_eq point
  · exact ⟨point.span, rfl⟩

/-- Restricting keeps precise points apart. -/
theorem separates_restrictWatch (table : MaskTable) :
    Separates table.restrictWatch EncodedPoint.IsPrecise := by
  refine .of_span table.restrictWatch_eq fun first second one two same => ?_
  obtain ⟨span, left⟩ := table.restrictWatch_eq first
  obtain ⟨other, right⟩ := table.restrictWatch_eq second
  by_cases data : first.kind.isWatchpoint = true
  · rw [left, right] at same
    obtain ⟨kind, address, _, comparator, watched, registers⟩ := first
    obtain ⟨sameKind, sameAddress, _, sameComparator, sameWatched, sameRegisters⟩ := second
    cases same
    obtain ⟨mask, masked, run⟩ := one data
    obtain ⟨twin, also, again⟩ := two data
    dsimp only at masked run also again
    rw [run] at again
    cases again
    rw [masked, also]
  · have kinds := congrArg EncodedPoint.kind same
    rw [left, right] at kinds
    change first.kind = second.kind at kinds
    unfold MaskTable.restrictWatch at same
    rwa [if_neg data, if_neg (kinds ▸ data)] at same

theorem separates_restrict (table : MaskTable) :
    Separates table.restrict fun point => point.IsPrecise ∧ point.kind.bank = .watchpoints := by
  refine .of_span table.restrict_eq ?_
  rintro first second ⟨one, data⟩ ⟨two, also⟩ same
  rw [table.restrict_eq_restrictWatch data, table.restrict_eq_restrictWatch also] at same
  exact (separates_restrictWatch table).injective one two same

namespace SlotTable

variable {table : SlotTable} {among : EncodedPoint → Prop}

theorem slotwise_restrictWatch_breakpoints (masks : MaskTable)
    (tidy : table.Tidy fun point => among point ∧ point.kind.bank = .breakpoints) :
    table.slotwise masks.restrictWatch = table := by
  rw [tidy.slotwise_congr fun point member => masks.restrictWatch_of_breakpoints member.2]
  exact table.slotwise_id

theorem slotwise_restrictWatch_watchpoints (masks : MaskTable)
    (tidy : table.Tidy fun point => among point ∧ point.kind.bank = .watchpoints) :
    table.slotwise masks.restrictWatch = table.slotwise masks.restrict :=
  tidy.slotwise_congr fun _ member => (masks.restrict_eq_restrictWatch member.2).symm

end SlotTable

namespace Encoding

variable {architecture : Architecture} {first second : Option UInt32}

theorem Cuts.isPrecise {kind : PointKind} {cursor : WatchCursor} {points : List EncodedPoint}
    (cut : Cuts (piecePoint kind (.ofInfoWords architecture first second) false) cursor points)
    (free : cursor.table = none) (window : cursor.window = 8)
    (below : cursor.next.toNat + cursor.remaining.toNat < 2 ^ 64) :
    ∀ point ∈ points, point.IsPrecise := by
  -- The cursor never comes to the end of the address space, so advancing it does
  -- not saturate and the span of each piece is as long as its step.
  induction cut with
  | done => exact fun point none => by cases none
  | @piece cursor point points more encoded rest ih =>
      obtain ⟨mask, run, freely⟩ :=
        piecePoint_free kind (Capabilities.has_byteSelect architecture first second) free
          (by rw [window]; decide) more
      rw [freely] at encoded
      cases encoded
      have step := WatchCursor.toNat_step_eight window
      have left := cursor.toNat_remaining_rest
      have next : cursor.rest.next.toNat =
          min (cursor.next.toNat + cursor.step.toNat) 0xffffffffffffffff :=
        Address.toNat_advanceSaturating _ _
      have offset : cursor.offset.toNat = cursor.next.toNat % 8 := by
        unfold WatchCursor.offset
        rw [window, Address.toNat_offsetIn_eight]
      have base : (cursor.next.alignDown cursor.window).toNat =
          cursor.next.toNat - cursor.next.toNat % 8 := by
        rw [window, Address.toNat_alignDown_eight]
      intro point member
      rcases List.mem_cons.mp member with rfl | later
      · refine fun _ => ⟨mask, rfl, ?_⟩
        have start : cursor.next.toNat - (cursor.next.alignDown cursor.window).toNat =
            cursor.offset.toNat := by
          omega
        have length : cursor.rest.next.toNat - cursor.next.toNat = cursor.step.toNat := by
          omega
        change ByteMask.ofRun? (cursor.next.toNat - (cursor.next.alignDown cursor.window).toNat)
          (cursor.rest.next.toNat - cursor.next.toNat) = some mask
        rw [start, length, run]
      · exact ih free window (by omega) point later

/-- With free masks, requests that end below the end of the address space become
precise points. -/
theorem isPrecise_of_encode {request : PointRequest} {points : List EncodedPoint}
    (encoded : encode request (.ofInfoWords architecture first second) ⟨none, none⟩ = .ok points)
    (below : request.EndsBelow) : ∀ point ∈ points, point.IsPrecise := by
  intro point member data
  have kind := (plain_encode encoded).kinds point member
  rw [kind] at data
  have precise := (cuts_of_encode encoded data).isPrecise rfl rfl (below data) point member
  exact precise (kind ▸ data)

end Encoding

end DebugRegisters
