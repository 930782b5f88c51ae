import DebugRegisters.Address

/-!
# Watch conditions

A condition on a watchpoint as the expression evaluator sums it up: the
operator, and for each operand its final value together with the origin of
every value produced on the way to it.
-/

set_option autoImplicit false

namespace DebugRegisters

inductive ValueOrigin where
  /-- A constant, or anything else without a place of its own. -/
  | constant
  /-- A value recorded earlier. -/
  | history
  /-- Memory of the traced process. A lazy value was never fetched. -/
  | memory (address : Address) (isLazy : Bool)
  | register
  /-- A place computed from others, such as a bit field. -/
  | computed
  /-- A variable of the debugger itself. -/
  | internal
  deriving DecidableEq, Repr

/-- The final value of an operand, as an integer, with the size of its type in bytes. -/
structure OperandValue where
  origin : ValueOrigin
  asInteger : UInt64
  size : UInt64
  deriving DecidableEq, Repr

/-- An evaluated operand. `value` is missing where evaluation failed. -/
structure Operand where
  value : Option OperandValue
  chain : List ValueOrigin
  deriving DecidableEq, Repr

namespace Operand

def constant (value size : UInt64) : Operand :=
  ⟨some ⟨.constant, value, size⟩, [.constant]⟩

def memory (address : Address) (size : UInt64) : Operand :=
  ⟨some ⟨.memory address false, 0, size⟩, [.memory address false]⟩

end Operand

/-- How many memory reads a chain of values needs. Hardware sees neither
registers nor places made up by the debugger: for these there is no answer. -/
def memoryReads : List ValueOrigin → Option Nat
  | [] => some 0
  | .constant :: rest | .history :: rest => memoryReads rest
  | .memory _ isLazy :: rest => (memoryReads rest).map fun reads => if isLazy then reads else reads + 1
  | .register :: _ | .computed :: _ | .internal :: _ => none

namespace Operand

def memoryReads (operand : Operand) : Option Nat :=
  DebugRegisters.memoryReads operand.chain

/-- The operand is the memory at `address`, and evaluating it reads nothing else. -/
def readsExactly (operand : Operand) (address : Address) : Bool :=
  operand.memoryReads == some 1 &&
    match operand.value with
    | some ⟨.memory place _, _, _⟩ => place == address
    | _ => false

def readsNothing (operand : Operand) : Bool :=
  operand.value.isSome && operand.memoryReads == some 0

end Operand

inductive ConditionOperator where
  | equal
  /-- Any other operator. -/
  | other
  deriving DecidableEq, Repr

structure Condition where
  operator : ConditionOperator
  left : Operand
  right : Operand
  deriving DecidableEq, Repr

def Condition.memoryEquals (address : Address) (size value : UInt64) : Condition :=
  ⟨.equal, .memory address size, .constant value size⟩

end DebugRegisters
