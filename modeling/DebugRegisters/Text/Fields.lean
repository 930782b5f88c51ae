/-!
# Fields

A text cut at every occurrence of a separator. There is always at least one
field, and a separator at either end leaves an empty field there.
-/

set_option autoImplicit false

namespace DebugRegisters.Text

def fields (separator : Char) : List Char → List (List Char)
  | [] => [[]]
  | char :: rest =>
      if char = separator then [] :: fields separator rest
      else
        match fields separator rest with
        | [] => [[char]]
        | field :: others => (char :: field) :: others

def joinFields (separator : Char) : List (List Char) → List Char
  | [] => []
  | [field] => field
  | field :: others => field ++ separator :: joinFields separator others

theorem fields_ne_nil (separator : Char) (text : List Char) : fields separator text ≠ [] := by
  cases text with
  | nil => simp [fields]
  | cons char rest =>
      simp only [fields]
      split
      · simp
      · split <;> simp

/-- Cutting loses nothing. -/
theorem joinFields_fields (separator : Char) (text : List Char) :
    joinFields separator (fields separator text) = text := by
  induction text with
  | nil => rfl
  | cons char rest ih =>
      simp only [fields]
      cases found : fields separator rest with
      | nil => exact absurd found (fields_ne_nil separator rest)
      | cons field others =>
          rw [found] at ih
          split
          · next same => simp [joinFields, ih, same]
          · cases others with
            | nil => simpa [joinFields] using ih
            | cons other others => simpa [joinFields] using ih

theorem fields_of_notMem {separator : Char} {text : List Char} (absent : separator ∉ text) :
    fields separator text = [text] := by
  induction text with
  | nil => rfl
  | cons char rest ih =>
      rw [List.mem_cons, not_or] at absent
      simp [fields, Ne.symm absent.1, ih absent.2]

theorem fields_append_separator {separator : Char} {field : List Char}
    (absent : separator ∉ field) (rest : List Char) :
    fields separator (field ++ separator :: rest) = field :: fields separator rest := by
  induction field with
  | nil => simp [fields]
  | cons char field ih =>
      rw [List.mem_cons, not_or] at absent
      simp [fields, Ne.symm absent.1, ih absent.2]

/-- Fields without the separator come back as they were. -/
theorem fields_joinFields {separator : Char} {given : List (List Char)} (nonempty : given ≠ [])
    (absent : ∀ field ∈ given, separator ∉ field) :
    fields separator (joinFields separator given) = given := by
  induction given with
  | nil => exact absurd rfl nonempty
  | cons field others ih =>
      have here := absent field List.mem_cons_self
      cases others with
      | nil => exact fields_of_notMem here
      | cons other others =>
          rw [joinFields, fields_append_separator here, ih (by simp)]
          · exact fun later member => absent later (List.mem_cons_of_mem _ member)
          · simp

end DebugRegisters.Text
