import Mathlib.Algebra.BigOperators.Group.Multiset.Basic
import DebugRegisters.Proofs.Encoding.Restricted
import DebugRegisters.Proofs.Session.Capabilities
import DebugRegisters.Proofs.Session.Events

/-!
# What the outstanding demands come to

A demand is served by the points of its encoding, with or without the comparator
that it may get. A ledger puts the points of several demands together. It tells
what a removal finds: encoding the demand once more gives points that are held,
and where they were installed for another demand, that one takes over those of
the demand that is removed.
-/

set_option autoImplicit false

namespace DebugRegisters

open Encoding (attachComparator)

/-- The points may stand for the demand under a mask table. -/
inductive Serves (caps : Capabilities) (table : Option MaskTable) :
    Demand → List EncodedPoint → Prop where
  | plain {request : PointRequest} {comparator : Option Comparator} {points : List EncodedPoint}
      (chosen : comparator = none ∨ comparator = Session.removeComparator? request caps)
      (encoded : encode request caps ⟨table, comparator⟩ = .ok points) :
      Serves caps table (.plain request) points
  | masked {kind : PointKind} {address : Address} {mask : UInt64} {point : EncodedPoint}
      (encoded : encodeMasked kind address mask caps = .ok point) :
      Serves caps table (.masked kind address mask) [point]

/-- The points that serve the demands, all together. -/
inductive Ledger (caps : Capabilities) (table : Option MaskTable) :
    List Demand → Multiset EncodedPoint → Prop where
  | nil : Ledger caps table [] 0
  | cons {demand : Demand} {outstanding : List Demand} {points : List EncodedPoint}
      {total : Multiset EncodedPoint} (serves : Serves caps table demand points)
      (rest : Ledger caps table outstanding total) :
      Ledger caps table (demand :: outstanding) (↑points + total)

section Encodings

variable {caps : Capabilities} {table : Option MaskTable} {request : PointRequest}
  {comparator : Option Comparator} {points : List EncodedPoint}

/-- An encoding with a comparator is the plain one, or its single point with the
comparator. -/
theorem encode_plain (encoded : encode request caps ⟨table, comparator⟩ = .ok points) :
    ∃ bare, encode request caps ⟨table, none⟩ = .ok bare ∧
      (points = bare ∨ ∃ point, bare = [point] ∧ points = [{ point with comparator }]) := by
  rcases encode_comparator request caps table comparator with same | attached
  · exact ⟨points, same ▸ encoded, .inl rfl⟩
  · rw [attached] at encoded
    cases plain : encode request caps ⟨table, none⟩ with
    | error error =>
        rw [plain] at encoded
        cases encoded
    | ok bare =>
        rw [plain] at encoded
        cases encoded
        refine ⟨bare, rfl, ?_⟩
        match bare with
        | [] => exact .inl rfl
        | [point] => exact .inr ⟨point, rfl, rfl⟩
        | _ :: _ :: _ => exact .inl rfl

theorem encode_isOk (encoded : encode request caps ⟨table, none⟩ = .ok points)
    (comparator : Option Comparator) :
    ∃ others, encode request caps ⟨table, comparator⟩ = .ok others := by
  rcases encode_comparator request caps table comparator with same | attached
  · exact ⟨points, same.trans encoded⟩
  · rw [encoded] at attached
    exact ⟨_, attached⟩

theorem encodeMasked_shape {kind : PointKind} {address : Address} {mask : UInt64}
    {point : EncodedPoint} (encoded : encodeMasked kind address mask caps = .ok point) :
    point.kind = kind ∧ point.comparator = none ∧ caps.interface = .handles := by
  unfold encodeMasked at encoded
  split at encoded
  · cases encoded
  · next able =>
      split at encoded
      · cases encoded
      · cases encoded
        refine ⟨rfl, rfl, ?_⟩
        have both : caps.interface = .handles ∧ caps.has .dataMask = true := by simpa using able
        exact both.1

end Encodings

namespace Serves

variable {caps : Capabilities} {table : Option MaskTable} {demand : Demand}
  {points : List EncodedPoint}

theorem shape (serves : Serves caps table demand points) :
    ∃ kind, points ≠ [] ∧ ∀ point ∈ points, point.kind = kind := by
  cases serves with
  | @plain request comparator _ chosen encoded =>
      obtain ⟨bare, plain, same | ⟨point, single, attached⟩⟩ := encode_plain encoded
      · subst same
        exact ⟨request.kind, (plain_encode plain).nonempty, (plain_encode plain).kinds⟩
      · subst single attached
        refine ⟨request.kind, List.cons_ne_nil _ _, fun other member => ?_⟩
        rw [List.mem_singleton.mp member]
        exact (plain_encode plain).kinds point List.mem_cons_self
  | @masked kind _ _ point encoded =>
      refine ⟨kind, List.cons_ne_nil _ _, fun other member => ?_⟩
      rw [List.mem_singleton.mp member]
      exact (encodeMasked_shape encoded).1

/-- A demand that is served by a point with a comparator is served by that point
without it. -/
theorem withoutComparator (serves : Serves caps table demand points) {point : EncodedPoint}
    (member : point ∈ points) (compares : point.comparator ≠ none) :
    points = [point] ∧ Serves caps table demand [{ point with comparator := none }] := by
  cases serves with
  | @plain request comparator _ chosen encoded =>
      obtain ⟨bare, plain, same | ⟨single, alone, attached⟩⟩ := encode_plain encoded
      · subst same
        exact absurd ((plain_encode plain).comparators point member) compares
      · subst alone attached
        obtain rfl := List.mem_singleton.mp member
        have none : single.comparator = none :=
          (plain_encode plain).comparators single List.mem_cons_self
        refine ⟨rfl, .plain (.inl rfl) ?_⟩
        rw [plain, ← none]
  | masked encoded =>
      obtain rfl := List.mem_singleton.mp member
      exact absurd (encodeMasked_shape encoded).2.1 compares

/-- Nothing is served where there are no debug registers. -/
theorem interface_ne_unavailable (serves : Serves caps table demand points) :
    caps.interface ≠ .unavailable := by
  intro nothing
  cases serves with
  | plain chosen encoded =>
      unfold encode at encoded
      simp only [nothing, true_or, if_true] at encoded
      cases encoded
  | masked encoded =>
      rw [(encodeMasked_shape encoded).2.2] at nothing
      cases nothing

end Serves

namespace Ledger

variable {caps : Capabilities} {table : Option MaskTable} {outstanding : List Demand}
  {total : Multiset EncodedPoint}

/-- What serves a demand of the ledger can be taken out of it. -/
theorem split (ledger : Ledger caps table outstanding total) {demand : Demand}
    (member : demand ∈ outstanding) :
    ∃ points rest, Serves caps table demand points ∧
      Ledger caps table (outstanding.erase demand) rest ∧ total = ↑points + rest := by
  induction ledger with
  | nil => cases member
  | @cons first others points total serves ledger ih =>
      by_cases here : first = demand
      · subst here
        rw [List.erase_cons_head]
        exact ⟨points, total, serves, ledger, rfl⟩
      · have later : demand ∈ others := by
          rcases List.mem_cons.mp member with same | later
          · exact absurd same.symm here
          · exact later
        obtain ⟨taken, rest, served, remaining, same⟩ := ih later
        rw [List.erase_cons_tail (by simpa using here)]
        refine ⟨taken, ↑points + rest, served, .cons serves remaining, ?_⟩
        rw [same]
        exact add_left_comm _ _ _

/-- A point with a comparator can be exchanged for the same point without it. -/
theorem exchange (ledger : Ledger caps table outstanding total) {point : EncodedPoint}
    (member : point ∈ total) (compares : point.comparator ≠ none) :
    ∃ rest, total = point ::ₘ rest ∧
      Ledger caps table outstanding ({ point with comparator := none } ::ₘ rest) := by
  induction ledger with
  | nil => exact absurd member (Multiset.notMem_zero point)
  | @cons demand others points total serves ledger ih =>
      rcases Multiset.mem_add.mp member with here | later
      · obtain ⟨rfl, bare⟩ := serves.withoutComparator (Multiset.mem_coe.mp here) compares
        exact ⟨total, rfl, .cons bare ledger⟩
      · obtain ⟨rest, same, exchanged⟩ := ih later
        refine ⟨↑points + rest, ?_, ?_⟩
        · rw [same, Multiset.add_cons]
        · rw [← Multiset.add_cons]
          exact .cons serves exchanged

/-- Where the preferred points of a request are held, they can be taken for it,
whomever they were installed for. -/
theorem takePreferred (ledger : Ledger caps table outstanding total) {request : PointRequest}
    (member : .plain request ∈ outstanding) {preferred : List EncodedPoint}
    (encoded : encode request caps ⟨table, Session.removeComparator? request caps⟩ = .ok preferred)
    (held : ∀ point ∈ preferred, point ∈ total) :
    ∃ rest, total = ↑preferred + rest ∧
      Ledger caps table (outstanding.erase (.plain request)) rest := by
  obtain ⟨points, rest, serves, remaining, same⟩ := ledger.split member
  cases serves with
  | @plain _ comparator _ chosen stored =>
      rcases chosen with none | removed
      · subst none
        obtain ⟨bare, plain, whole | ⟨point, single, attached⟩⟩ := encode_plain encoded
        · rw [stored] at plain
          cases plain
          exact ⟨rest, whole ▸ same, remaining⟩
        · rw [stored] at plain
          cases plain
          subst single attached
          have bare : point.comparator = none :=
            (plain_encode stored).comparators point List.mem_cons_self
          generalize Session.removeComparator? request caps = comparator at held ⊢
          by_cases compares : comparator = none
          · have unchanged : { point with comparator } = point := by
              rw [compares, ← bare]
            exact ⟨rest, unchanged ▸ same, remaining⟩
          · have there := held _ List.mem_cons_self
            rw [same] at there
            have other : { point with comparator } ∈ rest := by
              rcases Multiset.mem_add.mp there with here | later
              · have equal := List.mem_singleton.mp (Multiset.mem_coe.mp here)
                exact absurd ((congrArg EncodedPoint.comparator equal).trans bare) compares
              · exact later
            obtain ⟨others, split, exchanged⟩ := remaining.exchange other compares
            have stripped : { point with comparator := none } = point := by
              rw [← bare]
            refine ⟨point ::ₘ others, ?_, ?_⟩
            · rw [same, split]
              exact Multiset.cons_swap _ _ _
            · have given : Ledger caps table (outstanding.erase (.plain request))
                  ({ point with comparator := none } ::ₘ others) := exchanged
              rwa [stripped] at given
      · subst removed
        rw [encoded] at stored
        cases stored
        exact ⟨rest, same, remaining⟩

/-- Where they are not held, the points without a comparator are. -/
theorem takePlain (ledger : Ledger caps table outstanding total) {request : PointRequest}
    (member : .plain request ∈ outstanding) {preferred : List EncodedPoint}
    (encoded : encode request caps ⟨table, Session.removeComparator? request caps⟩ = .ok preferred)
    (missing : ¬∀ point ∈ preferred, point ∈ total) :
    ∃ bare rest, encode request caps ⟨table, none⟩ = .ok bare ∧ total = ↑bare + rest ∧
      Ledger caps table (outstanding.erase (.plain request)) rest := by
  obtain ⟨points, rest, serves, remaining, same⟩ := ledger.split member
  cases serves with
  | plain chosen stored =>
      rcases chosen with none | removed
      · subst none
        exact ⟨points, rest, stored, same, remaining⟩
      · subst removed
        rw [encoded] at stored
        cases stored
        refine absurd (fun point member => ?_) missing
        rw [same]
        exact Multiset.mem_add.mpr (.inl (Multiset.mem_coe.mpr member))

theorem eq_nil_of_unavailable (ledger : Ledger caps table outstanding total)
    (nothing : caps.interface = .unavailable) : outstanding = [] ∧ total = 0 := by
  cases ledger with
  | nil => exact ⟨rfl, rfl⟩
  | cons serves rest => exact absurd nothing serves.interface_ne_unavailable

theorem owner (ledger : Ledger caps table outstanding total) {point : EncodedPoint}
    (member : point ∈ total) :
    ∃ demand ∈ outstanding, ∃ points, Serves caps table demand points ∧ point ∈ points := by
  induction ledger with
  | nil => exact absurd member (Multiset.notMem_zero point)
  | @cons demand others points total serves ledger ih =>
      rcases Multiset.mem_add.mp member with here | later
      · exact ⟨demand, List.mem_cons_self, points, serves, Multiset.mem_coe.mp here⟩
      · obtain ⟨owner, there, served⟩ := ih later
        exact ⟨owner, List.mem_cons_of_mem _ there, served⟩

end Ledger

section Restricting

variable {table : MaskTable} {architecture : Architecture} {first second : Option UInt32}

theorem Serves.restrict (valid : table.IsValid) {demand : Demand} {points : List EncodedPoint}
    (serves : Serves (.ofInfoWords architecture first second) none demand points) :
    Serves (.ofInfoWords architecture first second) (some table) demand
      (points.map table.restrictWatch) := by
  cases serves with
  | @plain request comparator _ chosen encoded =>
      have unconditional : comparator = none := by
        rcases chosen with none | removed
        · exact none
        · exact removed
      subst unconditional
      refine .plain (.inl rfl) ?_
      rw [encode_restricted valid, encoded]
      rfl
  | masked encoded => cases (encodeMasked_shape encoded).2.2

/-- Under a mask table the same demands are served by the restricted points. -/
theorem Ledger.restrict (valid : table.IsValid) {outstanding : List Demand}
    {total : Multiset EncodedPoint}
    (ledger : Ledger (.ofInfoWords architecture first second) none outstanding total) :
    Ledger (.ofInfoWords architecture first second) (some table) outstanding
      (total.map table.restrictWatch) := by
  induction ledger with
  | nil => exact .nil
  | cons serves rest ih =>
      rw [Multiset.map_add, Multiset.map_coe]
      exact .cons (serves.restrict valid) ih

end Restricting

end DebugRegisters
