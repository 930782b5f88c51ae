import Mathlib.Order.Bounds.Basic
import DebugRegisters.Proofs.MaskTable.Reading

/-!
# Rounding up as little as possible

Rounding to a table gives the smallest entry that covers a mask, and the smallest
length that reaches a number of bytes. The two go together: a run of bytes is
rounded up to the entry whose length is the least that reaches the end of the run.
-/

set_option autoImplicit false

namespace DebugRegisters

/-- The first hit of a search through an increasing list is the least. -/
theorem isLeast_of_find? {α : Type} [LE α] [LT α] [Std.IsPreorder α] [Std.LawfulOrderLT α]
    {values : List α} {accepts : α → Bool} (sorted : values.Pairwise (· < ·)) {value : α}
    (found : values.find? accepts = some value) :
    IsLeast {other | other ∈ values ∧ accepts other = true} value := by
  obtain ⟨accepted, before, later, rfl, passed⟩ := List.find?_eq_some_iff_append.mp found
  have above := (List.pairwise_cons.mp (List.pairwise_append.mp sorted).2.1).1
  refine ⟨⟨by simp, accepted⟩, fun other ⟨member, also⟩ => ?_⟩
  rcases List.mem_append.mp member with early | late
  · have rejected := passed other early
    rw [also] at rejected
    cases rejected
  · rcases List.mem_cons.mp late with rfl | further
    · exact Std.le_refl _
    · exact Std.le_of_lt (above other further)

namespace MaskTable

variable {table : MaskTable}

def lengths (table : MaskTable) : List Nat :=
  table.masks.map fun entry => ByteMask.count ⟨entry⟩

theorem IsValid.isWithin_iff (valid : table.IsValid) {mask : ByteMask} {entry : UInt8}
    (member : entry ∈ table.masks) : mask.IsWithin ⟨entry⟩ ↔ mask.bits ≤ entry := by
  obtain ⟨count, _, few, rfl⟩ := eq_lowBits_of_isLowMask (valid.low entry member)
  exact isWithin_lowBits_iff few

theorem IsValid.isLeast_roundUp (valid : table.IsValid) (mask : ByteMask) :
    IsLeast {entry | entry ∈ table.masks ∧ mask.IsWithin ⟨entry⟩} (table.roundUp mask).bits := by
  have same : {entry | entry ∈ table.masks ∧ mask.IsWithin ⟨entry⟩} =
      {entry | entry ∈ table.masks ∧ decide (mask.bits ≤ entry) = true} := by
    ext entry
    simp only [Set.mem_ofPred_eq, decide_eq_true_eq]
    exact and_congr_right valid.isWithin_iff
  rw [same]
  unfold roundUp
  split
  · next entry found => exact isLeast_of_find? valid.sorted found
  · next missing =>
      have none := List.find?_eq_none.mp missing _ valid.full_mem
      have bound := mask.bits.toNat_lt
      rw [decide_eq_true_eq, UInt8.le_iff_toNat_le] at none
      have full : (0xff : UInt8).toNat = 255 := rfl
      omega

theorem IsValid.sorted_lengths (valid : table.IsValid) : table.lengths.Pairwise (· < ·) := by
  unfold lengths
  rw [List.pairwise_map]
  refine valid.sorted.imp_of_mem fun {entry other} here there below => ?_
  obtain ⟨count, _, few, rfl⟩ := eq_lowBits_of_isLowMask (valid.low entry here)
  obtain ⟨more, _, also, rfl⟩ := eq_lowBits_of_isLowMask (valid.low other there)
  rw [UInt8.lt_iff_toNat_lt, toNat_lowBits few, toNat_lowBits also] at below
  rw [count_lowBits few, count_lowBits also]
  by_contra above
  have powers := Nat.pow_le_pow_right (show 0 < 2 by decide) (Nat.le_of_not_lt above)
  omega

/-- The search for a length among words is one among natural numbers. -/
theorem IsValid.minLength_eq (valid : table.IsValid) (bytes : UInt64) :
    (table.minLength bytes).toNat =
      (table.lengths.find? fun length => bytes.toNat ≤ length).getD 8 := by
  have values : ∀ entry ∈ table.masks,
      (UInt64.ofNat (ByteMask.count ⟨entry⟩)).toNat = ByteMask.count ⟨entry⟩ := by
    intro entry member
    obtain ⟨count, _, few, rfl⟩ := eq_lowBits_of_isLowMask (valid.low entry member)
    rw [count_lowBits few]
    exact UInt64.toNat_ofNat_of_lt' (show count < 2 ^ 64 by omega)
  have tests : ∀ entry ∈ table.masks,
      decide (bytes ≤ UInt64.ofNat (ByteMask.count ⟨entry⟩)) =
        decide (bytes.toNat ≤ ByteMask.count ⟨entry⟩) := by
    intro entry member
    rw [decide_eq_decide, UInt64.le_iff_toNat_le, values entry member]
  unfold minLength lengths
  rw [List.find?_map, List.find?_map]
  simp only [Function.comp_def]
  rw [List.find?_congr tests]
  cases found : table.masks.find? fun entry => decide (bytes.toNat ≤ ByteMask.count ⟨entry⟩) with
  | none => rfl
  | some entry => exact values entry (List.mem_of_find?_eq_some found)

/-- What rounding to a table promises. -/
structure RoundsMinimally (table : MaskTable) : Prop where
  /-- The smallest entry with all bytes of the mask. -/
  roundUp (mask : ByteMask) :
    IsLeast {entry | entry ∈ table.masks ∧ mask.IsWithin ⟨entry⟩} (table.roundUp mask).bits
  /-- The smallest length that is enough, or eight where none is. -/
  minLength (bytes : UInt64) :
    IsLeast {length | length ∈ table.lengths ∧ bytes.toNat ≤ length}
        (table.minLength bytes).toNat ∨
      (∀ length ∈ table.lengths, length < bytes.toNat) ∧ table.minLength bytes = 8
  /-- A run of bytes is rounded up to as many bytes as its end needs. -/
  run (offset length : Nat) (some : 1 ≤ length) (inside : offset + length ≤ 8) :
    ∃ mask, ByteMask.ofRun? offset length = .some mask ∧
      (table.roundUp mask).count = (table.minLength (UInt64.ofNat (offset + length))).toNat

theorem IsValid.roundsMinimally (valid : table.IsValid) : table.RoundsMinimally where
  roundUp := valid.isLeast_roundUp
  minLength bytes := by
    have value := valid.minLength_eq bytes
    cases found : table.lengths.find? fun length => bytes.toNat ≤ length with
    | some length =>
        rw [found, Option.getD_some] at value
        have least := isLeast_of_find? valid.sorted_lengths found
        simp only [decide_eq_true_eq] at least
        exact .inl (value.symm ▸ least)
    | none =>
        rw [found, Option.getD_none] at value
        refine .inr ⟨fun length member => ?_, UInt64.toNat_inj.mp value⟩
        simpa using List.find?_eq_none.mp found length member
  run offset length some inside := by
    have value : (UInt64.ofNat (offset + length)).toNat = offset + length :=
      UInt64.toNat_ofNat_of_lt' (show offset + length < 2 ^ 64 by omega)
    have exists_run : ∃ mask, ByteMask.ofRun? offset length = .some mask := by
      unfold ByteMask.ofRun?
      rw [if_neg (by omega)]
      exact ⟨_, rfl⟩
    obtain ⟨mask, run⟩ := exists_run
    obtain ⟨least, most⟩ := valid.toNat_minLength (UInt64.ofNat (offset + length))
    have rounded := ofRun?_minLength valid run value
    rw [ofRun?_zero least most, Option.some.injEq] at rounded
    exact ⟨mask, run, by rw [← rounded, count_lowBits most]⟩

/-- Exactly the lists of low masks with the mask of the whole window make a table. It
lists their members in increasing order, rounds up as little as its entries allow, and
is read back from its text. -/
theorem tables_round_minimally (masks : List UInt8) :
    ((∃ table, ofMasks masks = .ok table) ↔
      (∀ mask ∈ masks, ∃ length, 1 ≤ length ∧ length ≤ 8 ∧ mask.toNat = 2 ^ length - 1) ∧
        0xff ∈ masks) ∧
    ∀ table, ofMasks masks = .ok table →
      table.masks.Pairwise (· < ·) ∧ (∀ mask, mask ∈ table.masks ↔ mask ∈ masks) ∧
        table.RoundsMinimally ∧ parse table.text = .ok table := by
  constructor
  · simp only [exists_ofMasks_iff, isLowMask_iff]
  · intro table built
    have valid : table.IsValid := ⟨masks, built⟩
    refine ⟨valid.sorted, fun mask => ?_, valid.roundsMinimally, valid.parse_text⟩
    rw [(ofMasks_eq_ok_iff.mp built).2.2]
    exact mem_sortMasks

/-- A table given out of order and with a repetition. A mask in the middle of the window
takes the four lowest bytes, and nine bytes are more than any entry has. -/
theorem tables_round_minimally_repeated :
    let table : MaskTable := ⟨[0x01, 0x0f, 0xff]⟩
    ofMasks [0xff, 0x0f, 0x01, 0x0f] = .ok table ∧
      IsLeast {entry | entry ∈ table.masks ∧ (ByteMask.mk 0x06).IsWithin ⟨entry⟩} 0x0f ∧
      table.minLength 9 = 8 ∧ parse table.text = .ok table := by
  intro table
  have built : ofMasks [0xff, 0x0f, 0x01, 0x0f] = .ok table := by decide
  obtain ⟨_, _, rounds, read⟩ := (tables_round_minimally _).2 table built
  exact ⟨built, rounds.roundUp ⟨0x06⟩, by decide, read⟩

end MaskTable

end DebugRegisters
