import DebugRegisters.MaskTable

/-!
# Restricted byte masks

Whether the kernel takes any byte mask cannot be asked, so a session assumes it
until a watchpoint bank is rejected. From then on only the masks of the table
are used. The step is taken at most once and never back.
-/

set_option autoImplicit false

namespace DebugRegisters

inductive RestrictionState where
  /-- Any run of bytes can be selected. -/
  | capable
  /-- Only the masks of the table can be used. -/
  | degraded
  deriving DecidableEq, Repr

namespace RestrictionState

def name : RestrictionState → String
  | .capable => "capable"
  | .degraded => "degraded"

instance : ToString RestrictionState := ⟨name⟩

end RestrictionState

structure Restriction where
  state : RestrictionState
  table : MaskTable
  deriving DecidableEq, Repr

namespace Restriction

/-- The table that new points must keep to, if there is one to keep to. -/
def table? (restriction : Restriction) : Option MaskTable :=
  match restriction.state with
  | .capable => none
  | .degraded => some restriction.table

/-- The step taken after a rejection. There is none once it was taken. -/
def degrade? (restriction : Restriction) : Option Restriction :=
  match restriction.state with
  | .capable => some { restriction with state := .degraded }
  | .degraded => none

end Restriction

/-- The point with its byte mask replaced by the next larger one of the table.
Points without a byte mask, and masks of the table, stay as they are. -/
def MaskTable.restrict (table : MaskTable) (point : EncodedPoint) : EncodedPoint :=
  match point.span with
  | .bytes mask =>
      if table.contains mask then point else { point with span := .bytes (table.roundUp mask) }
  | _ => point

end DebugRegisters
