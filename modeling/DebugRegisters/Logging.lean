import DebugRegisters.Text.Lowercase

/-!
# Logging settings

Levels and formats of log records, and where the records go besides the
terminal. Names of levels and formats are read in any case.
-/

set_option autoImplicit false

namespace DebugRegisters

inductive LogLevel where
  | error
  | warn
  | info
  | debug
  | trace
  deriving DecidableEq, Repr

inductive LogFormat where
  /-- Several lines for a record, with its place in the program. -/
  | pretty
  /-- One line for a record. -/
  | compact
  /-- One JSON object for a record. -/
  | json
  deriving DecidableEq, Repr

inductive LoggingError where
  | invalidFormat (given : String)
  | invalidLevel (given : String)
  deriving DecidableEq, Repr

def LoggingError.message : LoggingError → String
  | .invalidFormat given => s!"Invalid log format: {given}. Use 'pretty', 'compact' or 'json'"
  | .invalidLevel given =>
      s!"Invalid log level: {given}. Use 'error', 'warn', 'info', 'debug', or 'trace'"

namespace LogLevel

/-- The rank of a level: the higher, the less severe. -/
def rank : LogLevel → Nat
  | .error => 0
  | .warn => 1
  | .info => 2
  | .debug => 3
  | .trace => 4

def isShown (level threshold : LogLevel) : Bool :=
  level.rank ≤ threshold.rank

def name : LogLevel → String
  | .error => "ERROR"
  | .warn => "WARN"
  | .info => "INFO"
  | .debug => "DEBUG"
  | .trace => "TRACE"

instance : ToString LogLevel := ⟨name⟩

def parse (given : String) : Except LoggingError LogLevel :=
  let word := String.ofList (Text.lower given.toList)
  if word = "error" ∨ word = "err" then .ok .error
  else if word = "warn" ∨ word = "warning" then .ok .warn
  else if word = "info" then .ok .info
  else if word = "debug" ∨ word = "dbg" then .ok .debug
  else if word = "trace" then .ok .trace
  else .error (.invalidLevel given)

end LogLevel

namespace LogFormat

def name : LogFormat → String
  | .pretty => "pretty"
  | .compact => "compact"
  | .json => "json"

instance : ToString LogFormat := ⟨name⟩

def parse (given : String) : Except LoggingError LogFormat :=
  let word := String.ofList (Text.lower given.toList)
  if word = "pretty" ∨ word = "dev" then .ok .pretty
  else if word = "compact" ∨ word = "text" then .ok .compact
  else if word = "json" then .ok .json
  else .error (.invalidFormat given)

end LogFormat

structure LoggingSettings where
  /-- The least severe level to show; without it, warnings and errors are shown. -/
  level : Option LogLevel
  format : LogFormat
  /-- A file that the records are also written to. -/
  file : Option String
  deriving DecidableEq, Repr

namespace LoggingSettings

/-- The settings for the texts of a format and a file. An empty text counts as
none. -/
def ofTexts (format file : Option String) : Except LoggingError LoggingSettings :=
  match format.filter (· ≠ "") with
  | none => .ok ⟨none, .compact, file.filter (· ≠ "")⟩
  | some name => (LogFormat.parse name).map fun format => ⟨none, format, file.filter (· ≠ "")⟩

def formatVariable : String := "HWPOINT_LOG_FORMAT"
def fileVariable : String := "HWPOINT_LOG_FILE"

def ofEnvironment (environment : String → Option String) : Except LoggingError LoggingSettings :=
  ofTexts (environment formatVariable) (environment fileVariable)

def withLevel (settings : LoggingSettings) (level : Option LogLevel) : LoggingSettings :=
  { settings with level := level.or settings.level }

def withFormat (settings : LoggingSettings) (format : Option LogFormat) : LoggingSettings :=
  { settings with format := format.getD settings.format }

def withFile (settings : LoggingSettings) (file : Option String) : LoggingSettings :=
  { settings with file := file.or settings.file }

def threshold (settings : LoggingSettings) : LogLevel :=
  settings.level.getD .warn

end LoggingSettings

end DebugRegisters
