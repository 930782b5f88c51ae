import Mathlib.Data.Nat.Digits.Defs
import DebugRegisters.Text.Numeral

/-!
# What numerals stand for

A numeral is read if and only if it is at least one digit, perhaps behind a plus
sign, with a value up to the limit. The value is that of the digits in the places
of the radix; a value that comes too large on the way is too large in the end.
-/

set_option autoImplicit false

namespace DebugRegisters.Numeral

variable {radix limit value : Nat} {char : Char} {text : List Char}

def IsDigit (radix : Nat) (char : Char) (value : Nat) : Prop :=
  value < radix ∧ (char = Nat.digitChar value ∨ char = (Nat.digitChar value).toUpper)

/-- How numerals are written: with at least one digit, the most significant first,
and perhaps with a plus sign in front. -/
inductive Spells (radix : Nat) : List Char → Nat → Prop where
  | bare {text : List Char} {values : List Nat} (some : text ≠ [])
      (each : List.Forall₂ (IsDigit radix) text values) :
      Spells radix text (Nat.ofDigits radix values.reverse)
  | signed {text : List Char} {values : List Nat} (some : text ≠ [])
      (each : List.Forall₂ (IsDigit radix) text values) :
      Spells radix ('+' :: text) (Nat.ofDigits radix values.reverse)

/-! ## Digits -/

theorem toNat_lt_of_digit? (found : digit? radix char = some value) : char.toNat < 128 := by
  by_contra foreign
  have beyond : ∀ last : Char, last.toNat < 128 → ¬char ≤ last := fun last ascii below =>
    foreign (Nat.lt_of_le_of_lt (UInt32.le_iff_toNat_le.mp (Char.le_def.mp below)) ascii)
  unfold digit? at found
  rw [if_neg fun inside => beyond '9' (by decide) inside.2,
    if_neg fun inside => beyond 'z' (by decide) inside.2,
    if_neg fun inside => beyond 'Z' (by decide) inside.2] at found
  cases found

theorem digit?_sixteen_eq_some_iff : digit? 16 char = some value ↔ IsDigit 16 char value := by
  have written : ∀ value < 16, digit? 16 (Nat.digitChar value) = some value ∧
      digit? 16 (Nat.digitChar value).toUpper = some value := by
    decide
  have read : ∀ code < 128, ∀ value < 16, digit? 16 (Char.ofNat code) = some value →
      Char.ofNat code = Nat.digitChar value ∨
        Char.ofNat code = (Nat.digitChar value).toUpper := by
    decide +kernel
  constructor
  · intro found
    have small : value < 16 := of_decide_eq_true (Option.filter_eq_some_iff.mp found).2
    have same : Char.ofNat char.toNat = char := Char.ofNat_toNat char
    exact ⟨small, same ▸ read char.toNat (toNat_lt_of_digit? found) value small (same.symm ▸ found)⟩
  · rintro ⟨small, rfl | rfl⟩
    · exact (written value small).1
    · exact (written value small).2

/-- The digits of a smaller radix are the first of the sixteen. -/
theorem digit?_eq_some_iff (few : radix ≤ 16) :
    digit? radix char = some value ↔ IsDigit radix char value := by
  have fewer : digit? radix char = some value ↔ digit? 16 char = some value ∧ value < radix := by
    unfold digit?
    dsimp only
    simp only [Option.filter_eq_some_iff, decide_eq_true_eq]
    constructor
    · rintro ⟨found, small⟩
      exact ⟨⟨found, Nat.lt_of_lt_of_le small few⟩, small⟩
    · rintro ⟨⟨found, _⟩, small⟩
      exact ⟨found, small⟩
  rw [fewer, digit?_sixteen_eq_some_iff]
  constructor
  · rintro ⟨⟨_, shape⟩, small⟩
    exact ⟨small, shape⟩
  · rintro ⟨small, shape⟩
    exact ⟨⟨Nat.lt_of_lt_of_le small few, shape⟩, small⟩

theorem not_isDigit_plus (few : radix ≤ 16) : ¬IsDigit radix '+' value := by
  have other : ∀ value < 16, '+' ≠ Nat.digitChar value ∧ '+' ≠ (Nat.digitChar value).toUpper := by
    decide
  rintro ⟨small, shape⟩
  obtain ⟨lower, upper⟩ := other value (Nat.lt_of_lt_of_le small few)
  exact shape.elim lower upper

/-- A numeral has no other characters. -/
theorem Spells.mem (spelled : Spells radix text value) :
    ∀ char ∈ text, char = '+' ∨ ∃ digit, IsDigit radix char digit := by
  have digits : ∀ {text : List Char} {values : List Nat},
      List.Forall₂ (IsDigit radix) text values → ∀ char ∈ text, ∃ digit, IsDigit radix char digit := by
    intro text values each
    induction each with
    | nil => exact nofun
    | cons first _ ih => exact List.forall_mem_cons.mpr ⟨⟨_, first⟩, ih⟩
  cases spelled with
  | bare _ each => exact fun char member => .inr (digits each char member)
  | signed _ each =>
      exact List.forall_mem_cons.mpr ⟨.inl rfl, fun char member => .inr (digits each char member)⟩

/-! ## Reading -/

/-- The value grows with every digit, so only the last one has to be compared with the
limit. -/
theorem continueFrom_eq_ok_iff (few : radix ≤ 16) {start : Nat} (within : start ≤ limit) :
    continueFrom radix limit start text = .ok value ↔
      ∃ values, List.Forall₂ (IsDigit radix) text values ∧
        value = start * radix ^ values.length + Nat.ofDigits radix values.reverse ∧
        value ≤ limit := by
  induction text generalizing start with
  | nil =>
      unfold continueFrom
      constructor
      · intro read
        cases read
        exact ⟨[], .nil, by simp, within⟩
      · rintro ⟨values, each, rfl, _⟩
        cases each
        simp
  | cons char rest ih =>
      unfold continueFrom
      cases found : digit? radix char with
      | none =>
          refine ⟨nofun, ?_⟩
          rintro ⟨_, each, _⟩
          cases each with
          | cons first _ =>
              rw [(digit?_eq_some_iff few).mpr first] at found
              cases found
      | some digit =>
          have first := (digit?_eq_some_iff few).mp found
          have places : ∀ values : List Nat,
              start * radix ^ (digit :: values).length +
                  Nat.ofDigits radix (digit :: values).reverse =
                (start * radix + digit) * radix ^ values.length +
                  Nat.ofDigits radix values.reverse := by
            intro values
            rw [List.length_cons, List.reverse_cons, Nat.ofDigits_append, Nat.ofDigits_singleton,
              List.length_reverse]
            ring
          dsimp only
          split
          · next fits =>
              rw [ih fits]
              constructor
              · rintro ⟨values, each, sum, bound⟩
                exact ⟨digit :: values, .cons first each, sum.trans (places values).symm, bound⟩
              · rintro ⟨_, each, sum, bound⟩
                cases each with
                | @cons _ other _ values head each =>
                    have same := (digit?_eq_some_iff few).mpr head
                    rw [found, Option.some.injEq] at same
                    subst same
                    exact ⟨values, each, sum.trans (places values), bound⟩
          · next exceeds =>
              refine ⟨nofun, ?_⟩
              rintro ⟨_, each, sum, bound⟩
              cases each with
              | @cons _ other _ values head each =>
                  have same := (digit?_eq_some_iff few).mpr head
                  rw [found, Option.some.injEq] at same
                  subst same
                  rw [places values] at sum
                  have positive : 0 < radix ^ values.length :=
                    Nat.pow_pos (Nat.lt_of_le_of_lt (Nat.zero_le _) first.1)
                  have grown := Nat.le_mul_of_pos_right (start * radix + digit) positive
                  omega

theorem continueFrom_zero_eq_ok_iff (few : radix ≤ 16) :
    continueFrom radix limit 0 text = .ok value ↔
      ∃ values, List.Forall₂ (IsDigit radix) text values ∧
        value = Nat.ofDigits radix values.reverse ∧ value ≤ limit := by
  simp only [continueFrom_eq_ok_iff few (Nat.zero_le limit), Nat.zero_mul, Nat.zero_add]

theorem read_eq_ok_iff (few : radix ≤ 16) :
    read radix limit text = .ok value ↔ Spells radix text value ∧ value ≤ limit := by
  unfold read
  split
  · refine ⟨nofun, fun ⟨spelled, _⟩ => ?_⟩
    cases spelled with
    | bare some => exact absurd rfl some
  · refine ⟨nofun, fun ⟨spelled, _⟩ => ?_⟩
    cases spelled with
    | bare _ each =>
        cases each with
        | cons first => exact absurd first (not_isDigit_plus few)
    | signed some => exact absurd rfl some
  · next digits more =>
      have some : digits ≠ [] := fun nothing => more (by rw [nothing])
      rw [continueFrom_zero_eq_ok_iff few]
      constructor
      · rintro ⟨values, each, rfl, bound⟩
        exact ⟨.signed some each, bound⟩
      · rintro ⟨spelled, bound⟩
        cases spelled with
        | bare _ each =>
            cases each with
            | cons first => exact absurd first (not_isDigit_plus few)
        | signed _ each => exact ⟨_, each, rfl, bound⟩
  · next some _ unsigned =>
      rw [continueFrom_zero_eq_ok_iff few]
      constructor
      · rintro ⟨values, each, rfl, bound⟩
        exact ⟨.bare (fun nothing => some nothing) each, bound⟩
      · rintro ⟨spelled, bound⟩
        cases spelled with
        | bare _ each => exact ⟨_, each, rfl, bound⟩
        | signed => exact absurd rfl (unsigned _)

end DebugRegisters.Numeral
