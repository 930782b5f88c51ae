import DebugRegisters.Restriction
import DebugRegisters.Text.Lowercase

/-!
# Session settings

What can be set for a session, and how the settings are read from the variables
of an environment. A variable of blanks alone counts as not set.
-/

set_option autoImplicit false

namespace DebugRegisters

structure Settings where
  /-- The slot tables are written to the log after every change. -/
  showsRegisters : Bool
  /-- The session starts with restricted byte masks. -/
  assumesRestriction : Bool
  /-- The masks of a restricted kernel. -/
  maskTable : MaskTable
  deriving DecidableEq, Repr

namespace Settings

def standard : Settings := ⟨false, false, .standard⟩

def restriction (settings : Settings) : Restriction where
  state := if settings.assumesRestriction then .degraded else .capable
  table := settings.maskTable

/-- Reads a truth value, in any case and with blanks around it. -/
def readFlag (name given : String) : Except InvalidSetting Bool :=
  let word := String.ofList (Text.lower (Text.trim given.toList))
  if word ∈ ["1", "true", "yes", "on"] then .ok true
  else if word ∈ ["0", "false", "no", "off"] then .ok false
  else .error (.notBoolean name word)

def setting? (environment : String → Option String) (name : String) : Option String :=
  (environment name).filter fun value => !(Text.trim value.toList).isEmpty

def showVariable : String := "HWPOINT_SHOW_DEBUG_REGS"
def assumeVariable : String := "HWPOINT_ASSUME_RESTRICTED_MASKS"
def tableVariable : String := "HWPOINT_MASK_TABLE"

def flagOr (environment : String → Option String) (name : String) (otherwise : Bool) :
    Except InvalidSetting Bool :=
  match setting? environment name with
  | none => .ok otherwise
  | some value => readFlag name value

def ofEnvironment (environment : String → Option String) : Except InvalidSetting Settings := do
  let showsRegisters ← flagOr environment showVariable false
  let assumesRestriction ← flagOr environment assumeVariable false
  let maskTable ←
    match setting? environment tableVariable with
    | none => .ok .standard
    | some value => MaskTable.parse value
  return { showsRegisters, assumesRestriction, maskTable }

end Settings

end DebugRegisters
