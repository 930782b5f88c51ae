import DebugRegisters.Proofs.Encoding.Coverage

/-!
# Watchpoints with permitted masks

With register arrays every watchpoint has a byte mask. Under a restriction the
mask is one of the mask table, whether the point was encoded for the table or
rounded up to it later.
-/

set_option autoImplicit false

namespace DebugRegisters

namespace Restriction

def Permits (restriction : Restriction) (point : EncodedPoint) : Prop :=
  ∃ mask, point.span = .bytes mask ∧
    (restriction.state = .degraded → restriction.table.contains mask = true)

variable {restriction : Restriction} {point : EncodedPoint}

theorem permits_restrict (valid : restriction.table.IsValid) (state : RestrictionState)
    (masked : ∃ mask, point.span = .bytes mask) :
    Permits { restriction with state } (restriction.table.restrict point) := by
  obtain ⟨mask, masked⟩ := masked
  rw [MaskTable.restrict_of_bytes valid masked]
  exact ⟨_, rfl, fun _ => valid.contains_roundUp mask⟩

end Restriction

namespace Encoding

variable {architecture : Architecture} {first second : Option UInt32}

theorem Cuts.masked {kind : PointKind} {cursor : WatchCursor} {points : List EncodedPoint}
    (cut : Cuts (piecePoint kind (.ofInfoWords architecture first second) false) cursor points) :
    ∀ point ∈ points, ∃ mask, point.span = .bytes mask := by
  refine cut.all fun piece point encoded => ?_
  have select := Capabilities.has_byteSelect architecture first second
  unfold piecePoint at encoded
  simp only [select, Bool.false_eq_true, if_false, if_true] at encoded
  split at encoded
  · cases encoded
    exact ⟨_, rfl⟩
  · cases encoded

/-- Under the restriction in force, a watch becomes the points that it becomes freely,
each restricted if masks are no longer free. -/
theorem free_of_encode {restriction : Restriction} (valid : restriction.table.IsValid)
    {request : PointRequest} {points : List EncodedPoint}
    (encoded : encode request (.ofInfoWords architecture first second) ⟨restriction.table?, none⟩ =
      .ok points) (data : request.kind.isWatchpoint = true) :
    ∃ free, encode request (.ofInfoWords architecture first second) ⟨none, none⟩ = .ok free ∧
      (restriction.state = .capable ∧ points = free ∨
        restriction.state = .degraded ∧ points = free.map restriction.table.restrict) := by
  obtain ⟨state, table⟩ := restriction
  cases state with
  | capable => exact ⟨points, encoded, .inl ⟨rfl, rfl⟩⟩
  | degraded =>
      change encode request _ ⟨some table, none⟩ = .ok points at encoded
      rw [encode_restricted valid] at encoded
      obtain ⟨free, freely, rfl⟩ := ok_of_map encoded
      refine ⟨free, freely, .inr ⟨rfl, List.map_congr_left fun precise listed => ?_⟩⟩
      rw [MaskTable.restrictWatch, (plain_encode freely).kinds precise listed, if_pos data]

/-- Under the restriction in force, a watch becomes permitted points. -/
theorem permits_of_encode {restriction : Restriction} (valid : restriction.table.IsValid)
    {request : PointRequest} {points : List EncodedPoint}
    (encoded : encode request (.ofInfoWords architecture first second) ⟨restriction.table?, none⟩ =
      .ok points) (data : request.kind.isWatchpoint = true) :
    ∀ point ∈ points, restriction.Permits point := by
  obtain ⟨free, freely, ways⟩ := free_of_encode valid encoded data
  have masked := (cuts_of_encode freely data).masked
  rcases ways with ⟨capable, rfl⟩ | ⟨degraded, rfl⟩
  · intro point member
    obtain ⟨mask, span⟩ := masked point member
    refine ⟨mask, span, fun degraded => ?_⟩
    rw [capable] at degraded
    cases degraded
  · intro point member
    obtain ⟨precise, listed, rfl⟩ := List.mem_map.mp member
    exact Restriction.permits_restrict valid restriction.state (masked precise listed)

/-- The points of every watch that is asked for keep to the rule, and restricting them
does not break it. -/
structure Upholds (asked : PointRequest → Prop) (rule : Restriction → EncodedPoint → Prop) :
    Prop where
  encoded {restriction : Restriction} (valid : restriction.table.IsValid)
    {architecture : Architecture} {first second : Option UInt32} {request : PointRequest}
    {points : List EncodedPoint} (asks : asked request)
    (encoded : encode request (.ofInfoWords architecture first second) ⟨restriction.table?, none⟩ =
      .ok points) (data : request.kind.isWatchpoint = true) :
    ∀ point ∈ points, rule restriction point
  restricted {restriction : Restriction} (valid : restriction.table.IsValid) {point : EncodedPoint}
    (before : rule restriction point) :
    rule { restriction with state := .degraded } (restriction.table.restrict point)

/-- Where a rule does not depend on the restriction, it has to be checked for free masks
only, and for restricting. -/
theorem Upholds.of_free {asked : PointRequest → Prop} {rule : EncodedPoint → Prop}
    (encoded : ∀ {architecture first second request points}, asked request →
      encode request (.ofInfoWords architecture first second) ⟨none, none⟩ = .ok points →
      request.kind.isWatchpoint = true → ∀ point ∈ points, rule point)
    (restricted : ∀ {table : MaskTable} {point}, table.IsValid → rule point →
      rule (table.restrict point)) : Upholds asked fun _ => rule where
  encoded valid _ _ _ _ _ asks made data := by
    obtain ⟨free, freely, ways⟩ := free_of_encode valid made data
    have before := encoded asks freely data
    rcases ways with ⟨_, rfl⟩ | ⟨_, rfl⟩
    · exact before
    · intro point member
      obtain ⟨precise, listed, rfl⟩ := List.mem_map.mp member
      exact restricted valid (before precise listed)
  restricted valid _ before := restricted valid before

theorem upholds_permits : Upholds (fun _ => True) Restriction.Permits where
  encoded valid _ _ _ _ _ _ encoded data := permits_of_encode valid encoded data
  restricted valid _ before := by
    obtain ⟨mask, masked, _⟩ := before
    exact Restriction.permits_restrict valid .degraded ⟨mask, masked⟩

end Encoding

end DebugRegisters
