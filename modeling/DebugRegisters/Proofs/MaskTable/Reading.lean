import DebugRegisters.Proofs.MaskTable.Rounding

/-!
# Building and reading mask tables

A list of masks makes a table if and only if all of them select the lowest bytes
and the mask of the whole window is among them. The table has the members of the
list, each once and in increasing order. The text of a table is read back as the
table.
-/

set_option autoImplicit false

namespace DebugRegisters

theorem mem_sortMasks {mask : UInt8} {masks : List UInt8} :
    mask ∈ sortMasks masks ↔ mask ∈ masks := by
  induction masks with
  | nil => exact Iff.rfl
  | cons first rest ih =>
      change mask ∈ insertMask first (sortMasks rest) ↔ _
      rw [MaskTable.mem_insertMask, ih, List.mem_cons]

theorem sortMasks_of_sorted {masks : List UInt8} (sorted : masks.Pairwise (· < ·)) :
    sortMasks masks = masks := by
  induction masks with
  | nil => rfl
  | cons mask rest ih =>
      obtain ⟨least, later⟩ := List.pairwise_cons.mp sorted
      change insertMask mask (sortMasks rest) = mask :: rest
      rw [ih later]
      cases rest with
      | nil => rfl
      | cons next rest =>
          rw [insertMask, if_pos (least next List.mem_cons_self)]

/-- The largest byte can only be the last of an increasing list. -/
theorem getLast?_eq_some_full_iff {masks : List UInt8} (sorted : masks.Pairwise (· < ·)) :
    masks.getLast? = some 0xff ↔ 0xff ∈ masks := by
  refine ⟨List.mem_of_getLast?, fun member => ?_⟩
  obtain ⟨before, later, rfl⟩ := List.append_of_mem member
  have above := (List.pairwise_cons.mp (List.pairwise_append.mp sorted).2.1).1
  cases later with
  | nil => simp
  | cons next later =>
      have past := UInt8.lt_iff_toNat_lt.mp (above next List.mem_cons_self)
      have bound := next.toNat_lt
      have full : (0xff : UInt8).toNat = 255 := rfl
      omega

namespace MaskTable

theorem isLowMask_iff {mask : UInt8} :
    isLowMask mask = true ↔ ∃ count, 1 ≤ count ∧ count ≤ 8 ∧ mask.toNat = 2 ^ count - 1 := by
  constructor
  · intro low
    obtain ⟨count, some, few, rfl⟩ := eq_lowBits_of_isLowMask low
    exact ⟨count, some, few, toNat_lowBits few⟩
  · rintro ⟨count, some, few, value⟩
    have all : ∀ count < 9, 1 ≤ count → isLowMask (lowBits count) = true := by decide
    have same : mask = lowBits count :=
      UInt8.toNat_inj.mp (value.trans (toNat_lowBits few).symm)
    exact same ▸ all count (by omega) some

theorem ofMasks_eq_ok_iff {masks : List UInt8} {table : MaskTable} :
    ofMasks masks = .ok table ↔
      (∀ mask ∈ masks, isLowMask mask = true) ∧ 0xff ∈ masks ∧ table = ⟨sortMasks masks⟩ := by
  have last := getLast?_eq_some_full_iff (pairwise_sortMasks masks)
  rw [mem_sortMasks] at last
  unfold ofMasks
  dsimp only
  split
  · next mask found =>
      refine ⟨nofun, fun ⟨low, _⟩ => ?_⟩
      have member := mem_sortMasks.mp (List.mem_of_find?_eq_some found)
      have shape := List.find?_some found
      rw [low mask member] at shape
      cases shape
  · next none =>
      have low : ∀ mask ∈ masks, isLowMask mask = true := fun mask member => by
        simpa using List.find?_eq_none.mp none mask (mem_sortMasks.mpr member)
      split
      · next ends =>
          exact ⟨fun built => ⟨low, last.mp ends, (Except.ok.inj built).symm⟩,
            fun ⟨_, _, same⟩ => congrArg Except.ok same.symm⟩
      · next ends => exact ⟨nofun, fun ⟨_, full, _⟩ => absurd (last.mpr full) ends⟩

theorem exists_ofMasks_iff {masks : List UInt8} :
    (∃ table, ofMasks masks = .ok table) ↔
      (∀ mask ∈ masks, isLowMask mask = true) ∧ 0xff ∈ masks := by
  simp [ofMasks_eq_ok_iff]

variable {table : MaskTable}

theorem IsValid.full_mem (valid : table.IsValid) : 0xff ∈ table.masks :=
  List.contains_iff_mem.mp valid.contains_full

theorem IsValid.ofMasks_masks (valid : table.IsValid) : ofMasks table.masks = .ok table :=
  ofMasks_eq_ok_iff.mpr ⟨valid.low, valid.full_mem, by rw [sortMasks_of_sorted valid.sorted]⟩

/-! ## The text of a table -/

def entryText (mask : UInt8) : List Char :=
  (Hexadecimal.padded 2 mask.toNat).toList

/-- What reading an entry relies on: there is no comma in it and no blank around it,
it is not empty, and its digits stand for the mask. -/
structure Readable (entry : List Char) (value : Nat) : Prop where
  comma : ',' ∉ entry
  trimmed : Text.trim entry = entry
  nonempty : entry.isEmpty = false
  digits : Numeral.read 16 255 (dropMarks 'X' (dropMarks 'x' entry)) = .ok value

theorem readable_entryText (mask : UInt8) : Readable (entryText mask) mask.toNat := by
  have all : ∀ value < 256,
      let shown := Hexadecimal.digits value
      let entry := '0' :: 'x' :: (List.replicate (2 - shown.length) '0' ++ shown)
      ',' ∉ entry ∧ Text.trim entry = entry ∧ entry.isEmpty = false ∧
        Numeral.read 16 255 (dropMarks 'X' (dropMarks 'x' entry)) = .ok value := by
    decide +kernel
  unfold entryText Hexadecimal.padded
  rw [String.toList_ofList]
  obtain ⟨comma, trimmed, nonempty, digits⟩ := all mask.toNat mask.toNat_lt
  exact ⟨comma, trimmed, nonempty, digits⟩

theorem readEntry_entryText (mask : UInt8) : readEntry (entryText mask) = .ok mask := by
  unfold readEntry
  rw [(readable_entryText mask).digits]
  exact congrArg Except.ok UInt8.ofNat_toNat

theorem mapM_readEntry_entryText (masks : List UInt8) :
    (masks.map entryText).mapM readEntry = .ok masks := by
  induction masks with
  | nil => rfl
  | cons mask rest ih =>
      rw [List.map_cons, List.mapM_cons, readEntry_entryText, ih]
      rfl

theorem toList_text (table : MaskTable) :
    table.text.toList = Text.joinFields ',' (table.masks.map entryText) := by
  unfold text
  rw [String.toList_intercalate, List.map_map]
  change [','].intercalate (table.masks.map entryText) = _
  induction table.masks.map entryText with
  | nil => rfl
  | cons entry rest ih =>
      cases rest with
      | nil => simp [Text.joinFields]
      | cons next rest => simp [Text.joinFields, ← ih]

/-- The entries come back as they were written. -/
theorem entries_text (some : table.masks ≠ []) :
    ((Text.fields ',' table.text.toList).map Text.trim).filter (fun entry => !entry.isEmpty) =
      table.masks.map entryText := by
  have each : ∀ entry ∈ table.masks.map entryText, ∃ value, Readable entry value := by
    intro entry member
    obtain ⟨mask, _, rfl⟩ := List.mem_map.mp member
    exact ⟨_, readable_entryText mask⟩
  have cut : Text.fields ',' table.text.toList = table.masks.map entryText := by
    rw [toList_text]
    refine Text.fields_joinFields (mt List.map_eq_nil_iff.mp some) fun entry member => ?_
    obtain ⟨_, readable⟩ := each entry member
    exact readable.comma
  rw [cut, List.map_congr_left (g := id), List.map_id, List.filter_eq_self]
  · intro entry member
    obtain ⟨_, readable⟩ := each entry member
    rw [readable.nonempty, Bool.not_false]
  · intro entry member
    obtain ⟨_, readable⟩ := each entry member
    exact readable.trimmed

theorem IsValid.parse_text (valid : table.IsValid) : parse table.text = .ok table := by
  have some : table.masks ≠ [] := List.ne_nil_of_mem valid.full_mem
  unfold parse
  rw [entries_text some]
  dsimp only
  rw [mapM_readEntry_entryText]
  exact valid.ofMasks_masks

end MaskTable

end DebugRegisters
