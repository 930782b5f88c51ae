import DebugRegisters.FileTree.Standard
import DebugRegisters.LogFile.Path
import DebugRegisters.Logging

/-!
# Log files

Whether records can go to a file. A run makes the directories on the way to the
file as far as they are missing, looks at the name, and opens the file after that.
-/

set_option autoImplicit false

namespace DebugRegisters

inductive LogFileError where
  | directory (cause : DirectoryError)
  /-- The path does not end in a name. -/
  | unnamed (path : String)
  | unopened
  deriving DecidableEq, Repr

def LogFileError.message? : LogFileError → Option String
  | .directory cause => some s!"File logging error: {cause.message}"
  | .unnamed path => some s!"Invalid log file path: {path}"
  | .unopened => none

namespace LogPath

/-- Makes the directory of a path in the standard file tree. A text that is too
long is refused before anything is made. -/
def makeDirectory (directory : String) : Except DirectoryError Walk :=
  if isLong directory then .error .longName
  else
    let start :=
      if isAbsolute directory then FileTree.fromRoot else FileTree.fromWorkingDirectory
    start.makeDirectories (names directory)

def check (path : String) : Except LogFileError Unit := do
  let directory := parent path
  let walk ← (makeDirectory directory).mapError .directory
  match name? path with
  | none => .error (.unnamed path)
  | some name =>
      if !isLong (join directory name) && walk.opens name then .ok () else .error .unopened

/-- The usual file, which is in the home directory if there is one. Its name starts
with the date of the run. All dates are of one length and none is in a name of the
standard file tree, so one date stands for all. -/
def usual (home : Option String) : String :=
  let directory := match home with
    | none => "/tmp"
    | some home => join home ".hwpoint"
  join directory "2000-01-01-hwpoint.log"

end LogPath

def homeVariable : String := "HOME"

def LoggingSettings.checkFile (settings : LoggingSettings) : Except LogFileError Unit :=
  match settings.file with
  | none => .ok ()
  | some path => LogPath.check path

end DebugRegisters
