import DebugRegisters.PointKind

/-!
# Names of kinds

The names under which kinds of points are given in steps and arguments.
-/

set_option autoImplicit false

namespace DebugRegisters.Replay

/-- Every name of a kind; the first of several is the usual one. -/
def kindNames : List (String × PointKind) :=
  [("execute", .execute), ("break", .execute), ("exec", .execute), ("read", .read),
    ("write", .write), ("access", .access), ("rw", .access)]

structure KindError where
  given : String
  deriving DecidableEq, Repr

def KindError.message (error : KindError) : String :=
  s!"invalid variant: {error.given}"

/-- The name equals the text, where letters of ASCII may differ in case if so
asked for. -/
def nameMatches (name : String) (ignoresCase : Bool) (text : String) : Bool :=
  if ignoresCase then name.toList.map Char.toLower == text.toList.map Char.toLower
  else name == text

def readKind (text : String) (ignoresCase : Bool) : Except KindError PointKind :=
  match kindNames.find? fun (name, _) => nameMatches name ignoresCase text with
  | some (_, kind) => .ok kind
  | none => .error ⟨text⟩

end DebugRegisters.Replay
