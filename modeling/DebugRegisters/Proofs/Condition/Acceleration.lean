import DebugRegisters.Condition.Acceleration

/-!
# Which conditions are left to the hardware

A chain of values is judged by the memory that was fetched on the way. The
decision counts these fetches and looks at the place of the final value, so it
knows which memory was read only where the final value was itself fetched and
stands in its chain.
-/

set_option autoImplicit false

namespace DebugRegisters

def ValueOrigin.fetched? : ValueOrigin → Option Address
  | .memory address false => some address
  | _ => none

inductive ValueOrigin.IsHidden : ValueOrigin → Prop where
  | register : IsHidden .register
  | computed : IsHidden .computed
  | internal : IsHidden .internal

/-- The end of the comparator's window at `address` is a number of 64 bits, and so is
the number of bits by which an operand of `length` bytes is shifted to its place.
Where they are not, the comparator's arithmetic overflows. -/
structure Power.WindowInRange (address : Address) (length width : UInt64) : Prop where
  stop : address.toNat - address.toNat % width.toNat + width.toNat < UInt64.size
  shift : (address.toNat - address.toNat % width.toNat + width.toNat -
    min (address.toNat + length.toNat) 0xffffffffffffffff) * 8 < UInt64.size

namespace Operand

def fetched (operand : Operand) : List Address :=
  operand.chain.filterMap ValueOrigin.fetched?

def IsVisible (operand : Operand) : Prop :=
  ∀ origin ∈ operand.chain, ¬ origin.IsHidden

/-- The final value is memory at `address`, whether it was fetched or not. -/
def EndsAt (operand : Operand) (address : Address) : Prop :=
  ∃ stored isLazy, operand.value = some stored ∧ stored.origin = .memory address isLazy

/-- The final value was fetched, and the chain has it. -/
def RecordsValue (operand : Operand) : Prop :=
  ∃ stored, operand.value = some stored ∧ stored.origin.fetched?.isSome = true ∧
    stored.origin ∈ operand.chain

def FitsWindow (operand : Operand) (address : Address) (width : UInt64) : Prop :=
  ∃ stored, operand.value = some stored ∧ 1 ≤ stored.size.toNat ∧ stored.size.toNat ≤ 8 ∧
    Power.WindowInRange address stored.size width

end Operand

namespace Condition

inductive Sides (condition : Condition) : Operand → Operand → Prop where
  | written : Sides condition condition.left condition.right
  | turned : Sides condition condition.right condition.left

/-- An equality of an operand that ends at the memory at `address`, after one
fetch from somewhere, with one that fetches nothing. -/
structure FetchesOnce (condition : Condition) (address : Address) (memory constant : Operand) :
    Prop where
  operator : condition.operator = .equal
  sides : condition.Sides memory constant
  place : memory.EndsAt address
  once : memory.fetched.length = 1
  evaluated : constant.value.isSome = true
  still : constant.fetched = []
  visible : memory.IsVisible ∧ constant.IsVisible

/-- An equality of the memory at `address`, fetched once and nothing else with
it, with a constant. -/
structure IsGenuine (condition : Condition) (address : Address) (memory constant : Operand) :
    Prop extends FetchesOnce condition address memory constant where
  fetch : memory.fetched = [address]

end Condition

theorem memoryReads_eq_some_iff {chain : List ValueOrigin} {count : Nat} :
    memoryReads chain = some count ↔
      (∀ origin ∈ chain, ¬ origin.IsHidden) ∧
        (chain.filterMap ValueOrigin.fetched?).length = count := by
  induction chain generalizing count with
  | nil => simp [memoryReads, eq_comm]
  | cons origin rest ih =>
      rw [List.forall_mem_cons]
      cases origin with
      | constant =>
          have seen : ¬ ValueOrigin.constant.IsHidden := nofun
          simp [memoryReads, List.filterMap_cons, ValueOrigin.fetched?, ih, seen]
      | history =>
          have seen : ¬ ValueOrigin.history.IsHidden := nofun
          simp [memoryReads, List.filterMap_cons, ValueOrigin.fetched?, ih, seen]
      | memory address isLazy =>
          have seen : ¬ (ValueOrigin.memory address isLazy).IsHidden := nofun
          cases isLazy with
          | true => simp [memoryReads, List.filterMap_cons, ValueOrigin.fetched?, ih, seen]
          | false => simp [memoryReads, ValueOrigin.fetched?, ih, seen, and_assoc]
      | register => simp [memoryReads, ValueOrigin.IsHidden.register]
      | computed => simp [memoryReads, ValueOrigin.IsHidden.computed]
      | internal => simp [memoryReads, ValueOrigin.IsHidden.internal]

namespace Operand

variable {operand : Operand} {address : Address}

theorem readsExactly_iff :
    operand.readsExactly address = true ↔
      operand.IsVisible ∧ operand.fetched.length = 1 ∧ operand.EndsAt address := by
  have reads : (operand.memoryReads == some 1) = true ↔
      operand.IsVisible ∧ operand.fetched.length = 1 := by
    rw [beq_iff_eq]
    exact memoryReads_eq_some_iff
  rw [readsExactly, Bool.and_eq_true, reads, and_assoc]
  refine and_congr_right fun _ => and_congr_right fun _ => ?_
  unfold EndsAt
  obtain ⟨_ | ⟨origin, integer, size⟩, chain⟩ := operand
  · simp
  · cases origin with
    | memory place isLazy =>
        constructor
        · intro same
          cases beq_iff_eq.mp same
          exact ⟨_, isLazy, rfl, rfl⟩
        · rintro ⟨_, _, ⟨⟩, ⟨⟩⟩
          exact beq_self_eq_true _
    | _ => simp

theorem readsNothing_iff :
    operand.readsNothing = true ↔
      operand.IsVisible ∧ operand.fetched = [] ∧ operand.value.isSome = true := by
  unfold readsNothing
  rw [Bool.and_eq_true, beq_iff_eq, Operand.memoryReads, memoryReads_eq_some_iff,
    List.length_eq_zero_iff]
  constructor
  · rintro ⟨evaluated, visible, still⟩
    exact ⟨visible, still, evaluated⟩
  · rintro ⟨visible, still, evaluated⟩
    exact ⟨evaluated, visible, still⟩

/-- One fetch is all there is, so it is that of the recorded value. -/
theorem fetched_of_recordsValue (place : operand.EndsAt address)
    (once : operand.fetched.length = 1) (records : operand.RecordsValue) :
    operand.fetched = [address] := by
  obtain ⟨stored, isLazy, there, origin⟩ := place
  obtain ⟨same, again, read, member⟩ := records
  cases there.symm.trans again
  rw [origin] at read member
  cases isLazy with
  | true => cases read
  | false =>
      have among : address ∈ operand.fetched := List.mem_filterMap.mpr ⟨_, member, rfl⟩
      obtain ⟨only, single⟩ := List.length_eq_one_iff.mp once
      rw [single, List.mem_singleton] at among
      rw [single, among]

end Operand

namespace Condition

variable {condition : Condition} {address : Address} {memory constant : Operand}

theorem memoryAndConstant?_eq_some_iff :
    condition.memoryAndConstant? address = some (memory, constant) ↔
      condition.FetchesOnce address memory constant := by
  have reads {one other : Operand} :
      (one.readsExactly address && other.readsNothing) = true ↔
        (one.IsVisible ∧ one.fetched.length = 1 ∧ one.EndsAt address) ∧
          other.IsVisible ∧ other.fetched = [] ∧ other.value.isSome = true := by
    rw [Bool.and_eq_true, Operand.readsExactly_iff, Operand.readsNothing_iff]
  unfold memoryAndConstant?
  constructor
  · intro found
    split at found
    · next equality =>
        split at found
        · next left =>
            cases found
            obtain ⟨⟨seen, once, place⟩, also, still, evaluated⟩ := reads.mp left
            exact ⟨equality, .written, place, once, evaluated, still, seen, also⟩
        · split at found
          · next right =>
              cases found
              obtain ⟨⟨seen, once, place⟩, also, still, evaluated⟩ := reads.mp right
              exact ⟨equality, .turned, place, once, evaluated, still, seen, also⟩
          · cases found
    · cases found
  · rintro ⟨equality, sides, place, once, evaluated, still, seen, also⟩
    have accepted := reads.mpr ⟨⟨seen, once, place⟩, also, still, evaluated⟩
    rw [if_pos equality]
    cases sides with
    | written => rw [if_pos accepted]
    | turned =>
        have other : (condition.left.readsExactly address && condition.right.readsNothing) ≠ true := by
          intro taken
          obtain ⟨⟨-, fetches, -⟩, -⟩ := reads.mp taken
          rw [still] at fetches
          cases fetches
        rw [if_neg other, if_pos accepted]

/-- What is compared is the constant, with as many bytes as the memory operand has. -/
theorem constantComparison?_eq_some_iff {comparison : ConstantComparison} :
    condition.constantComparison? address = some comparison ↔
      ∃ memory constant stored wanted, condition.FetchesOnce address memory constant ∧
        memory.value = some stored ∧ constant.value = some wanted ∧
        (1 ≤ stored.size.toNat ∧ stored.size.toNat ≤ 8) ∧
        comparison = ⟨wanted.asInteger, stored.size⟩ := by
  have sized {size : UInt64} :
      ¬ (size = 0 ∨ Power.maxComparatorBytes < size.toNat) ↔ 1 ≤ size.toNat ∧ size.toNat ≤ 8 := by
    rw [← UInt64.toNat_inj]
    change ¬ (size.toNat = 0 ∨ 8 < size.toNat) ↔ _
    omega
  unfold constantComparison?
  constructor
  · intro compared
    split at compared
    · cases compared
    · next memory constant found =>
        split at compared
        · next stored wanted there given =>
            split at compared
            · cases compared
            · next fits =>
                cases compared
                exact ⟨memory, constant, stored, wanted, memoryAndConstant?_eq_some_iff.mp found,
                  there, given, sized.mp fits, rfl⟩
        · cases compared
  · rintro ⟨memory, constant, stored, wanted, once, there, given, fits, rfl⟩
    rw [memoryAndConstant?_eq_some_iff.mpr once]
    simp only [there, given]
    rw [if_neg (sized.mpr fits)]

theorem fetchesOnce_of_comparator? {width : UInt64} {comparator : Comparator}
    (accelerated : condition.comparator? address width = some comparator) :
    ∃ memory constant, condition.FetchesOnce address memory constant := by
  unfold comparator? at accelerated
  split at accelerated
  · cases accelerated
  · obtain ⟨comparison, compared, -⟩ := Option.map_eq_some_iff.mp accelerated
    obtain ⟨memory, constant, _, _, once, -⟩ := constantComparison?_eq_some_iff.mp compared
    exact ⟨memory, constant, once⟩

theorem FetchesOnce.comparator?_isSome {width : UInt64}
    (once : condition.FetchesOnce address memory constant)
    (fits : memory.FitsWindow address width) (wide : width ≠ 0) :
    ∃ comparator, condition.comparator? address width = some comparator := by
  obtain ⟨stored, there, least, most, -⟩ := fits
  obtain ⟨wanted, given⟩ := Option.isSome_iff_exists.mp once.evaluated
  have compared : condition.constantComparison? address = some ⟨wanted.asInteger, stored.size⟩ :=
    constantComparison?_eq_some_iff.mpr
      ⟨memory, constant, stored, wanted, once, there, given, ⟨least, most⟩, rfl⟩
  unfold comparator?
  rw [if_neg wide, compared]
  exact ⟨_, rfl⟩

/-- A condition that is left to the hardware compares an operand that ends at
the watched memory, after exactly one fetch, with a constant; if that operand's
final value is what was fetched, it is the watched memory. Every genuine
comparison of the watched memory with a constant is left to the hardware, as long as
the comparator's window ends within 64 bits. -/
theorem accelerated_compares_memory (condition : Condition) (address : Address) (width : UInt64) :
    (∀ comparator, condition.comparator? address width = some comparator →
      ∃ memory constant, condition.FetchesOnce address memory constant ∧
        (memory.RecordsValue → condition.IsGenuine address memory constant)) ∧
    ∀ memory constant, condition.IsGenuine address memory constant →
      memory.FitsWindow address width → width ≠ 0 →
      ∃ comparator, condition.comparator? address width = some comparator := by
  constructor
  · intro comparator accelerated
    obtain ⟨memory, constant, once⟩ := fetchesOnce_of_comparator? accelerated
    refine ⟨memory, constant, once, fun records => ⟨once, ?_⟩⟩
    exact Operand.fetched_of_recordsValue once.place once.once records
  · intro memory constant genuine fits wide
    exact genuine.comparator?_isSome fits wide

/-- Four bytes of memory compared with a constant. -/
theorem accelerated_compares_memory_equals :
    (∃ memory constant, (Condition.memoryEquals ⟨0x2000⟩ 4 1).IsGenuine ⟨0x2000⟩ memory constant) ∧
      ∃ comparator, (Condition.memoryEquals ⟨0x2000⟩ 4 1).comparator? ⟨0x2000⟩ 4 = some comparator := by
  have genuine : (Condition.memoryEquals ⟨0x2000⟩ 4 1).IsGenuine ⟨0x2000⟩
      (.memory ⟨0x2000⟩ 4) (.constant 1 4) := by
    refine ⟨⟨rfl, .written, ⟨_, false, rfl, rfl⟩, rfl, rfl, rfl, ?_, ?_⟩, rfl⟩
    · rintro origin member hidden
      cases List.mem_singleton.mp member
      cases hidden
    · rintro origin member hidden
      cases List.mem_singleton.mp member
      cases hidden
  obtain ⟨-, accelerates⟩ := accelerated_compares_memory (.memoryEquals ⟨0x2000⟩ 4 1) ⟨0x2000⟩ 4
  have fits : (Operand.memory ⟨0x2000⟩ 4).FitsWindow ⟨0x2000⟩ 4 :=
    ⟨_, rfl, by decide, by decide, by decide, by decide⟩
  exact ⟨⟨_, _, genuine⟩, accelerates _ _ genuine fits (by decide)⟩

/-- The operand ends at the watched memory, which was never fetched, after a
fetch from elsewhere. The condition is left to the hardware, which then looks
at memory that the condition does not read. -/
theorem unfetched_value_is_accelerated :
    let condition : Condition :=
      ⟨.equal,
        ⟨some ⟨.memory ⟨0x2000⟩ true, 0, 4⟩, [.memory ⟨0x3000⟩ false, .memory ⟨0x2000⟩ true]⟩,
        .constant 1 4⟩
    condition.comparator? ⟨0x2000⟩ 4 = some ⟨0x0f, 1⟩ ∧
      ¬ ∃ memory constant, condition.IsGenuine ⟨0x2000⟩ memory constant := by
  refine ⟨by decide, ?_⟩
  rintro ⟨memory, constant, genuine⟩
  have fetch := genuine.fetch
  cases genuine.sides with
  | written => exact absurd fetch (by decide)
  | turned => exact absurd fetch (by decide)

end Condition

end DebugRegisters
