import DebugRegisters.Text.Fields

/-!
# Paths of log files

A path is a text, and its length counts. Between its slashes stand names; an empty
one and a single dot stay in place and say nothing.
-/

set_option autoImplicit false

namespace DebugRegisters.LogPath

/-- What stands between the slashes of a path. -/
def segments (path : String) : List String :=
  (Text.fields '/' path.toList).map String.ofList

/-- A segment that leads nowhere. -/
def isIdle (segment : String) : Bool :=
  segment = "" || segment = "."

def isAbsolute (path : String) : Bool :=
  path.toList.head? = some '/'

/-- The names on the way. -/
def names (path : String) : List String :=
  (segments path).filter (!isIdle ·)

/-- The name at the end of a path, if the path names something: neither a root
nor a step up does. -/
def name? (path : String) : Option String :=
  (names path).getLast?.filter (· ≠ "..")

/-- The text before the last name, without the idle segments at its end. If none
is left, it is the root or the directory from which the path starts. -/
def parent (path : String) : String :=
  let front := (((segments path).reverse.dropWhile isIdle).drop 1).dropWhile isIdle
  if front ≠ [] then String.ofList (Text.joinFields '/' (front.reverse.map String.toList))
  else if isAbsolute path then "/" else "."

/-- A path with a name behind it, after a slash if there is none yet. -/
def join (path name : String) : String :=
  if path = "" ∨ path.toList.getLast? = some '/' then path ++ name else path ++ "/" ++ name

/-- The greatest number of bytes of a path. -/
def lengthLimit : Nat := 4095

def isLong (path : String) : Bool :=
  lengthLimit < path.utf8ByteSize

end DebugRegisters.LogPath
