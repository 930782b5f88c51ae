import DebugRegisters.Power.ValueComparator

/-!
# Conditions in hardware

A condition that compares exactly the watched memory with a constant can be
left to a data value comparator. Any other condition is evaluated after the
trap.
-/

set_option autoImplicit false

namespace DebugRegisters

structure ConstantComparison where
  value : UInt64
  size : UInt64
  deriving DecidableEq, Repr

namespace Condition

/-- The operands of an equality in the order memory, constant, where one of
them is exactly the memory at `address` and the other reads nothing. -/
def memoryAndConstant? (condition : Condition) (address : Address) : Option (Operand × Operand) :=
  if condition.operator = .equal then
    if condition.left.readsExactly address && condition.right.readsNothing then
      some (condition.left, condition.right)
    else if condition.right.readsExactly address && condition.left.readsNothing then
      some (condition.right, condition.left)
    else none
  else none

/-- The comparison of the memory at `address` with a constant that a condition
comes to, if it is one and the operand fits the widest comparator. -/
def constantComparison? (condition : Condition) (address : Address) : Option ConstantComparison :=
  match condition.memoryAndConstant? address with
  | none => none
  | some (memory, constant) =>
      match memory.value, constant.value with
      | some stored, some wanted =>
          if stored.size = 0 ∨ Power.maxComparatorBytes < stored.size.toNat then none
          else some ⟨wanted.asInteger, stored.size⟩
      | _, _ => none

/-- The comparator for a condition on a watch at `address`, with comparators
`width` bytes wide. The size of the compared operand counts, not the length of
the watch. -/
def comparator? (condition : Condition) (address : Address) (width : UInt64) : Option Comparator :=
  if width = 0 then none
  else (condition.constantComparison? address).map fun comparison =>
    Power.comparatorFor address comparison.size comparison.value width

end Condition

end DebugRegisters
