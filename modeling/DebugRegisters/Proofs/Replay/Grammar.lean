import Mathlib.Data.List.TakeWhile
import DebugRegisters.Proofs.Encoding.Shape
import DebugRegisters.Proofs.Text.Numeral
import DebugRegisters.Replay.Step

/-!
# The grammar of steps

How numbers, kinds and steps are written, said without the way in which they are
read. A text is read as a step if and only if it is written as that step: nothing
else is let in, and what is let in stands for exactly what was written.
-/

set_option autoImplicit false

namespace DebugRegisters

namespace Text

variable {text : List Char}

/-- Only blanks are dropped, and only at the ends. -/
theorem exists_of_trim (text : List Char) :
    ∃ before after, text = before ++ trim text ++ after ∧
      (∀ char ∈ before, isBlank char = true) ∧ ∀ char ∈ after, isBlank char = true := by
  refine ⟨text.takeWhile isBlank, ((trimLeft text).reverse.takeWhile isBlank).reverse, ?_,
    fun char => List.mem_takeWhile_imp, fun char member =>
      List.mem_takeWhile_imp (List.mem_reverse.mp member)⟩
  have right : trimRight (trimLeft text) ++ ((trimLeft text).reverse.takeWhile isBlank).reverse =
      trimLeft text := by
    unfold trimRight
    rw [← List.reverse_append, List.takeWhile_append_dropWhile, List.reverse_reverse]
  unfold trim
  rw [List.append_assoc, right]
  exact List.takeWhile_append_dropWhile.symm

/-- A text without blanks comes back from between blanks. -/
theorem trim_of_blanks {before after : List Char} (dark : ∀ char ∈ text, isBlank char = false)
    (front : ∀ char ∈ before, isBlank char = true) (back : ∀ char ∈ after, isBlank char = true) :
    trim (before ++ text ++ after) = text := by
  have kept : ∀ given : List Char, (∀ char ∈ given, isBlank char = false) →
      given.dropWhile isBlank = given := by
    intro given none
    rw [List.dropWhile_eq_self_iff]
    intro some
    rw [none _ (List.getElem_mem some)]
    exact Bool.false_ne_true
  have left : trimLeft (before ++ text ++ after) = (text ++ after).dropWhile isBlank := by
    unfold trimLeft
    rw [List.append_assoc, List.dropWhile_append_of_pos front]
  unfold trim
  rw [left]
  cases text with
  | nil =>
      rw [List.nil_append, List.dropWhile_eq_nil_iff.mpr back]
      rfl
  | cons first rest =>
      have starts : (first :: rest ++ after).dropWhile isBlank = first :: rest ++ after := by
        rw [List.cons_append, List.dropWhile_cons_of_neg]
        rw [dark first List.mem_cons_self]
        exact Bool.false_ne_true
      unfold trimRight
      rw [starts, List.reverse_append, List.dropWhile_append_of_pos, kept, List.reverse_reverse]
      · exact fun char member => dark char (List.mem_reverse.mp member)
      · exact fun char member => back char (List.mem_reverse.mp member)

end Text

namespace Replay

/-! ## Numbers -/

inductive NumberText : List Char → Nat → Prop where
  | hexadecimal {mark : Char} {digits : List Char} {value : Nat} (marked : mark = 'x' ∨ mark = 'X')
      (spelled : Numeral.Spells 16 (withoutUnderscores digits) value) :
      NumberText ('0' :: mark :: digits) value
  | decimal {digits : List Char} {value : Nat}
      (spelled : Numeral.Spells 10 (withoutUnderscores digits) value) : NumberText digits value

def IsNumber (text : List Char) (number : UInt64) : Prop :=
  ∃ before core after, text = before ++ core ++ after ∧
    (∀ char ∈ before, Text.isBlank char = true) ∧ (∀ char ∈ after, Text.isBlank char = true) ∧
    NumberText core number.toNat

def IsPlain (char : Char) : Prop :=
  Text.isBlank char = false ∧ char ≠ ':'

theorem isPlain_of_spells {radix value : Nat} {text : List Char} (few : radix ≤ 16)
    (spelled : Numeral.Spells radix (withoutUnderscores text) value) :
    ∀ char ∈ text, IsPlain char := by
  have digits : ∀ value < 16,
      (Text.isBlank (Nat.digitChar value) = false ∧ Nat.digitChar value ≠ ':') ∧
        Text.isBlank (Nat.digitChar value).toUpper = false ∧ (Nat.digitChar value).toUpper ≠ ':' := by
    decide
  intro char member
  by_cases line : char = '_'
  · subst line
    exact ⟨by decide, by decide⟩
  · rcases spelled.mem char (List.mem_filter.mpr ⟨member, by simpa using line⟩) with
      rfl | ⟨digit, small, shape⟩
    · exact ⟨by decide, by decide⟩
    · obtain ⟨lower, upper⟩ := digits digit (Nat.lt_of_lt_of_le small few)
      rcases shape with rfl | rfl
      · exact lower
      · exact upper

theorem NumberText.isPlain {text : List Char} {value : Nat} (written : NumberText text value) :
    ∀ char ∈ text, IsPlain char := by
  cases written with
  | hexadecimal marked spelled =>
      refine List.forall_mem_cons.mpr ⟨⟨by decide, by decide⟩, List.forall_mem_cons.mpr ⟨?_, ?_⟩⟩
      · rcases marked with rfl | rfl <;> exact ⟨by decide, by decide⟩
      · exact isPlain_of_spells (Nat.le_refl 16) spelled
  | decimal spelled => exact isPlain_of_spells (by decide) spelled

/-- A text with the mark of hexadecimal numbers is no decimal number. -/
theorem not_decimal_of_mark {mark : Char} {digits : List Char} {value : Nat}
    (marked : mark = 'x' ∨ mark = 'X') :
    ¬Numeral.Spells 10 (withoutUnderscores ('0' :: mark :: digits)) value := by
  obtain ⟨shown, unsigned, letters⟩ : mark ≠ '_' ∧ mark ≠ '+' ∧
      ∀ digit < 10, mark ≠ Nat.digitChar digit ∧ mark ≠ (Nat.digitChar digit).toUpper := by
    rcases marked with rfl | rfl <;> decide
  intro spelled
  have member : mark ∈ withoutUnderscores ('0' :: mark :: digits) :=
    List.mem_filter.mpr ⟨by simp, by simpa using shown⟩
  rcases spelled.mem mark member with plus | ⟨digit, small, shape⟩
  · exact unsigned plus
  · exact shape.elim (letters digit small).1 (letters digit small).2

theorem numberValue_eq_ok_iff {text : List Char} {value : Nat} :
    numberValue text = .ok value ↔ NumberText text value ∧ value ≤ 0xffffffffffffffff := by
  have hexadecimal : ∀ {mark : Char} {digits : List Char}, mark = 'x' ∨ mark = 'X' →
      (Numeral.read 16 0xffffffffffffffff (withoutUnderscores digits) = .ok value ↔
        NumberText ('0' :: mark :: digits) value ∧ value ≤ 0xffffffffffffffff) := by
    intro mark digits marked
    rw [Numeral.read_eq_ok_iff (Nat.le_refl 16)]
    refine and_congr_left fun _ => ⟨.hexadecimal marked, fun written => ?_⟩
    cases written with
    | hexadecimal _ spelled => exact spelled
    | decimal spelled => exact absurd spelled (not_decimal_of_mark marked)
  unfold numberValue
  split
  · exact hexadecimal (.inl rfl)
  · exact hexadecimal (.inr rfl)
  · next lower upper =>
      rw [Numeral.read_eq_ok_iff (by decide)]
      refine and_congr_left fun _ => ⟨.decimal, fun written => ?_⟩
      cases written with
      | hexadecimal marked =>
          rcases marked with rfl | rfl
          · exact absurd rfl (lower _)
          · exact absurd rfl (upper _)
      | decimal spelled => exact spelled

theorem readNumber_eq_ok_iff {text : String} {number : UInt64} :
    readNumber text = .ok number ↔ IsNumber text.toList number := by
  have bound := number.toNat_lt
  have read : readNumber text = .ok number ↔
      numberValue (Text.trim text.toList) = .ok number.toNat := by
    unfold readNumber
    dsimp only
    cases found : numberValue (Text.trim text.toList) with
    | error => exact ⟨nofun, nofun⟩
    | ok value =>
        have small := (numberValue_eq_ok_iff.mp found).2
        dsimp only
        rw [Except.ok.injEq, Except.ok.injEq]
        constructor
        · rintro rfl
          exact (UInt64.toNat_ofNat_of_lt' (show value < 2 ^ 64 by omega)).symm
        · rintro rfl
          exact UInt64.ofNat_toNat
  rw [read, numberValue_eq_ok_iff]
  constructor
  · rintro ⟨written, _⟩
    obtain ⟨before, after, parts, front, back⟩ := Text.exists_of_trim text.toList
    exact ⟨before, _, after, parts, front, back, written⟩
  · rintro ⟨before, core, after, parts, front, back, written⟩
    rw [parts, Text.trim_of_blanks (fun char member => (written.isPlain char member).1) front back]
    exact ⟨written, by omega⟩

/-! ## Kinds -/

inductive IsKindName : String → PointKind → Prop where
  | execute : IsKindName "execute" .execute
  | breakpoint : IsKindName "break" .execute
  | exec : IsKindName "exec" .execute
  | read : IsKindName "read" .read
  | write : IsKindName "write" .write
  | access : IsKindName "access" .access
  | readWrite : IsKindName "rw" .access

def IsKind (text : List Char) (kind : PointKind) : Prop :=
  ∃ name, IsKindName name kind ∧ text.map Char.toLower = name.toList

theorem isKindName_of_mem {entry : String × PointKind} (listed : entry ∈ kindNames) :
    IsKindName entry.1 entry.2 ∧ entry.1.toList.map Char.toLower = entry.1.toList := by
  simp only [kindNames, List.mem_cons, List.not_mem_nil, or_false] at listed
  rcases listed with rfl | rfl | rfl | rfl | rfl | rfl | rfl
  all_goals exact ⟨by constructor, by decide⟩

theorem readKind_eq_ok_iff {text : List Char} {kind : PointKind} :
    readKind (String.ofList text) true = .ok kind ↔ IsKind text kind := by
  have matching : ∀ name, nameMatches name true (String.ofList text) =
      (name.toList.map Char.toLower == text.map Char.toLower) := by
    intro name
    rw [nameMatches, if_pos rfl, String.toList_ofList]
  unfold readKind
  simp only [matching]
  constructor
  · intro read
    split at read
    · next name other found =>
        cases read
        obtain ⟨named, small⟩ := isKindName_of_mem (List.mem_of_find?_eq_some found)
        have same := (List.find?_eq_some_iff_append.mp found).1
        exact ⟨name, named, (eq_of_beq same).symm.trans small⟩
    · cases read
  · rintro ⟨name, named, same⟩
    rw [same]
    cases named <;> rfl

theorem IsKind.colon_notMem {text : List Char} {kind : PointKind} (named : IsKind text kind) :
    ':' ∉ text := by
  obtain ⟨name, named, same⟩ := named
  intro member
  have lower : Char.toLower ':' ∈ name.toList := same ▸ List.mem_map_of_mem member
  revert lower
  cases named <;> decide

/-! ## Steps -/

inductive Asks : PointKind → UInt64 → Option UInt64 → PointRequest → Prop where
  | watch {kind : PointKind} {address length : UInt64} (data : kind ≠ .execute) :
      Asks kind address (some length) (.watch kind ⟨address⟩ length)
  | byte {kind : PointKind} {address : UInt64} (data : kind ≠ .execute) :
      Asks kind address none (.watch kind ⟨address⟩ 1)
  | range {address length : UInt64} (some : length ≠ 0) :
      Asks .execute address (.some length) (.rangedBreakpoint ⟨address⟩ length)
  | instruction {address : UInt64} {length : Option UInt64} (plain : length = none ∨ length = some 0) :
      Asks .execute address length (.breakpoint ⟨address⟩)

theorem requestFor_eq_iff {kind : PointKind} {address : UInt64} {length : Option UInt64}
    {request : PointRequest} :
    requestFor kind address length = request ↔ Asks kind address length request := by
  constructor
  · rintro rfl
    cases kind with
    | execute =>
        cases length with
        | none => exact .instruction (.inl rfl)
        | some length =>
            unfold requestFor
            dsimp only
            split
            · next positive => exact .range (UInt64.pos_iff_ne_zero.mp positive)
            · next nothing =>
                exact .instruction (.inr (congrArg some
                  (Decidable.not_not.mp (mt UInt64.pos_iff_ne_zero.mpr nothing))))
    | read | write | access => cases length <;> constructor <;> exact nofun
  · intro asked
    cases asked with
    | watch data | byte data => cases kind <;> first | rfl | exact absurd rfl data
    | range some => exact if_pos (UInt64.pos_iff_ne_zero.mpr some)
    | instruction plain => rcases plain with rfl | rfl <;> rfl

inductive RequestFields : List (List Char) → PointRequest → Prop where
  | short {kindText addressText : List Char} {kind : PointKind} {address : UInt64}
      {request : PointRequest} (named : IsKind kindText kind) (placed : IsNumber addressText address)
      (asked : Asks kind address none request) : RequestFields [kindText, addressText] request
  | long {kindText addressText lengthText : List Char} {kind : PointKind} {address length : UInt64}
      {request : PointRequest} (named : IsKind kindText kind) (placed : IsNumber addressText address)
      (sized : IsNumber lengthText length) (asked : Asks kind address (some length) request) :
      RequestFields [kindText, addressText, lengthText] request

/-- The text is the number of a thread, which has at most 31 bits. -/
def IsThread (text : List Char) (thread : ThreadId) : Prop :=
  ∃ number, IsNumber text number ∧ number.toNat < 2 ^ 31 ∧ thread = ⟨number.toNat⟩

theorem mapError_eq_ok_iff {ε δ α : Type} {outcome : Except ε α} {change : ε → δ} {value : α} :
    outcome.mapError change = .ok value ↔ outcome = .ok value := by
  cases outcome with
  | error => exact ⟨nofun, nofun⟩
  | ok => simp [Except.mapError]

theorem bind_eq_ok_iff {ε α β : Type} {outcome : Except ε α} {next : α → Except ε β} {value : β} :
    outcome.bind next = .ok value ↔ ∃ between, outcome = .ok between ∧ next between = .ok value := by
  cases outcome with
  | error => exact ⟨nofun, nofun⟩
  | ok between =>
      refine ⟨fun later => ⟨between, rfl, later⟩, ?_⟩
      rintro ⟨_, same, later⟩
      cases same
      exact later

namespace Step

variable {field kindField addressField lengthField : List Char} {request : PointRequest}
  {fields : List (List Char)} {step : Step}

theorem readField_eq_ok_iff {number : UInt64} : readField field = .ok number ↔ IsNumber field number := by
  unfold readField
  rw [mapError_eq_ok_iff, readNumber_eq_ok_iff, String.toList_ofList]

theorem readThread_eq_ok_iff {thread : ThreadId} : readThread field = .ok thread ↔ IsThread field thread := by
  unfold readThread
  change Except.bind _ _ = _ ↔ _
  rw [bind_eq_ok_iff]
  refine exists_congr fun number => and_congr readField_eq_ok_iff ?_
  split
  · next small =>
      rw [Except.ok.injEq, eq_comm]
      exact (and_iff_right (show number.toNat < 2 ^ 31 by omega)).symm
  · next large =>
      refine ⟨nofun, fun ⟨small, _⟩ => ?_⟩
      exact absurd (show number.toNat ≤ 0x7fffffff by omega) large

theorem readRequest_eq_ok_iff {length : Option (List Char)} :
    readRequest kindField addressField length = .ok request ↔
      ∃ kind, IsKind kindField kind ∧ ∃ number, length.mapM readField = .ok number ∧
        ∃ address, IsNumber addressField address ∧ Asks kind address number request := by
  have parts : readRequest kindField addressField length =
      ((readKind (String.ofList kindField) true).mapError
          (.invalidKind (String.ofList kindField))).bind fun kind =>
        (length.mapM readField).bind fun number =>
          (readField addressField).bind fun address => .ok (requestFor kind address number) := rfl
  simp only [parts, bind_eq_ok_iff, mapError_eq_ok_iff, readKind_eq_ok_iff, readField_eq_ok_iff,
    Except.ok.injEq, requestFor_eq_iff]

theorem readRequest_short_iff :
    readRequest kindField addressField none = .ok request ↔
      RequestFields [kindField, addressField] request := by
  rw [readRequest_eq_ok_iff]
  constructor
  · rintro ⟨kind, named, _, read, address, placed, asked⟩
    cases read
    exact .short named placed asked
  · intro written
    cases written with
    | short named placed asked => exact ⟨_, named, none, rfl, _, placed, asked⟩

theorem readRequest_long_iff :
    readRequest kindField addressField (some lengthField) = .ok request ↔
      RequestFields [kindField, addressField, lengthField] request := by
  have sizes : ∀ number, (some lengthField).mapM readField = .ok number ↔
      ∃ length, IsNumber lengthField length ∧ number = some length := by
    intro number
    change (readField lengthField).bind (fun length => .ok (some length)) = .ok number ↔ _
    simp only [bind_eq_ok_iff, readField_eq_ok_iff, Except.ok.injEq]
    exact exists_congr fun _ => and_congr_right fun _ => eq_comm
  rw [readRequest_eq_ok_iff]
  constructor
  · rintro ⟨kind, named, number, read, address, placed, asked⟩
    obtain ⟨length, sized, rfl⟩ := (sizes number).mp read
    exact .long named placed sized asked
  · intro written
    cases written with
    | long named placed sized asked =>
        exact ⟨_, named, _, (sizes _).mpr ⟨_, sized, rfl⟩, _, placed, asked⟩

end Step

/-- The fields in which a step is written. -/
inductive StepFields : List (List Char) → Step → Prop where
  | insert {fields : List (List Char)} {request : PointRequest}
      (asked : RequestFields fields request) :
      StepFields ("insert".toList :: fields) (.insert request)
  | remove {fields : List (List Char)} {request : PointRequest}
      (asked : RequestFields fields request) :
      StepFields ("remove".toList :: fields) (.remove request)
  | newThread {text : List Char} {thread : ThreadId} (named : IsThread text thread) :
      StepFields ["thread".toList, text] (.newThread thread)
  | exit {text : List Char} {thread : ThreadId} (named : IsThread text thread) :
      StepFields ["exit".toList, text] (.exit thread)
  | vanish {text : List Char} {thread : ThreadId} (named : IsThread text thread) :
      StepFields ["vanish".toList, text] (.vanish thread)
  | resumeAll : StepFields ["resume".toList] (.resume none)
  | resume {text : List Char} {thread : ThreadId} (named : IsThread text thread) :
      StepFields ["resume".toList, text] (.resume (some thread))
  | reject : StepFields ["reject".toList] .reject

namespace Step

variable {fields : List (List Char)} {step : Step}

theorem stepFields_of_ofFields? (found : ofFields? fields = some (.ok step)) :
    StepFields fields step := by
  have map_ok : ∀ {α : Type} {outcome : Except StepError α} {change : α → Step},
      some (outcome.map change) = some (.ok step) → ∃ value, outcome = .ok value ∧ change value = step :=
    fun mapped => ok_of_map (Option.some.inj mapped)
  unfold ofFields? at found
  split at found
  · split at found
    · next name =>
        obtain ⟨request, read, rfl⟩ := map_ok found
        exact name ▸ .insert (readRequest_short_iff.mp read)
    · split at found
      · next name =>
          obtain ⟨request, read, rfl⟩ := map_ok found
          exact name ▸ .remove (readRequest_short_iff.mp read)
      · cases found
  · split at found
    · next name =>
        obtain ⟨request, read, rfl⟩ := map_ok found
        exact name ▸ .insert (readRequest_long_iff.mp read)
    · split at found
      · next name =>
          obtain ⟨request, read, rfl⟩ := map_ok found
          exact name ▸ .remove (readRequest_long_iff.mp read)
      · cases found
  · split at found
    · next name =>
        obtain ⟨thread, read, rfl⟩ := map_ok found
        exact name ▸ .newThread (readThread_eq_ok_iff.mp read)
    · split at found
      · next name =>
          obtain ⟨thread, read, rfl⟩ := map_ok found
          exact name ▸ .exit (readThread_eq_ok_iff.mp read)
      · split at found
        · next name =>
            obtain ⟨thread, read, rfl⟩ := map_ok found
            exact name ▸ .vanish (readThread_eq_ok_iff.mp read)
        · split at found
          · next name =>
              obtain ⟨thread, read, rfl⟩ := map_ok found
              exact name ▸ .resume (readThread_eq_ok_iff.mp read)
          · cases found
  · split at found
    · next name =>
        cases found
        exact name ▸ .resumeAll
    · split at found
      · next name =>
          cases found
          exact name ▸ .reject
      · cases found
  · cases found

theorem ofFields?_of_stepFields (written : StepFields fields step) :
    ofFields? fields = some (.ok step) := by
  cases written with
  | insert asked | remove asked =>
      cases asked with
      | short named placed asked =>
          have read := readRequest_short_iff.mpr (.short named placed asked)
          simp [ofFields?, read, Except.map]
      | long named placed sized asked =>
          have read := readRequest_long_iff.mpr (.long named placed sized asked)
          simp [ofFields?, read, Except.map]
  | newThread named | exit named | vanish named | resume named =>
      simp [ofFields?, readThread_eq_ok_iff.mpr named, Except.map]
  | resumeAll | reject => simp [ofFields?]

theorem parse_eq_ok_iff {text : String} :
    parse text = .ok step ↔ ofFields? (Text.fields ':' text.toList) = some (.ok step) := by
  unfold parse
  cases ofFields? (Text.fields ':' text.toList) with
  | none => exact ⟨nofun, nofun⟩
  | some outcome => exact (Option.some.injEq ..).to_iff.symm

end Step

theorem IsNumber.colon_notMem {text : List Char} {number : UInt64} (written : IsNumber text number) :
    ':' ∉ text := by
  obtain ⟨before, core, after, rfl, front, back, written⟩ := written
  have blank : Text.isBlank ':' = false := by decide
  simp only [List.mem_append, not_or]
  refine ⟨⟨fun member => ?_, fun member => (written.isPlain _ member).2 rfl⟩, fun member => ?_⟩
  · exact Bool.false_ne_true (blank.symm.trans (front _ member))
  · exact Bool.false_ne_true (blank.symm.trans (back _ member))

theorem RequestFields.colon_notMem {fields : List (List Char)} {request : PointRequest}
    (written : RequestFields fields request) : ∀ field ∈ fields, ':' ∉ field := by
  cases written with
  | short named placed => simpa using ⟨named.colon_notMem, placed.colon_notMem⟩
  | long named placed sized =>
      simpa using ⟨named.colon_notMem, placed.colon_notMem, sized.colon_notMem⟩

theorem StepFields.colon_notMem {fields : List (List Char)} {step : Step}
    (written : StepFields fields step) : ∀ field ∈ fields, ':' ∉ field := by
  cases written with
  | insert asked | remove asked =>
      exact List.forall_mem_cons.mpr ⟨by decide, asked.colon_notMem⟩
  | newThread named | exit named | vanish named | resume named =>
      obtain ⟨number, written, -⟩ := named
      exact List.forall_mem_cons.mpr ⟨by decide, by simpa using written.colon_notMem⟩
  | resumeAll | reject => decide

theorem StepFields.ne_nil {fields : List (List Char)} {step : Step}
    (written : StepFields fields step) : fields ≠ [] := by
  cases written <;> exact List.cons_ne_nil _ _

/-- A text is read as a step exactly if it consists of the fields of the step with colons
between them. -/
theorem step_parses_iff_written (text : String) (step : Step) :
    Step.parse text = .ok step ↔
      ∃ fields, StepFields fields step ∧ text.toList = Text.joinFields ':' fields := by
  rw [Step.parse_eq_ok_iff]
  constructor
  · intro found
    exact ⟨_, Step.stepFields_of_ofFields? found, (Text.joinFields_fields ':' text.toList).symm⟩
  · rintro ⟨fields, written, same⟩
    rw [same, Text.fields_joinFields written.ne_nil written.colon_notMem]
    exact Step.ofFields?_of_stepFields written

end Replay

end DebugRegisters
