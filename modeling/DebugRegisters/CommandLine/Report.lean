import DebugRegisters.CommandLine.Arguments
import DebugRegisters.LogFile
import DebugRegisters.Replay.Run

/-!
# Reports

What the commands of the tool print. A command that fails has printed what it
knew before, and its error comes on a line of its own.
-/

set_option autoImplicit false

namespace DebugRegisters.CommandLine

open Replay

/-- What a run of the tool leaves: the exit code, the text printed, the line
about an error, and the records for the log. -/
structure Report where
  exitCode : Nat
  output : String
  error : Option String
  records : List Notice

namespace Report

def success (output : String) (records : List Notice) : Report :=
  ⟨0, output, none, records⟩

def failure (output : String) (error : PointError) (records : List Notice) : Report :=
  ⟨1, output, some ("Error: " ++ error.message), records⟩

def refusal (line : String) : Report :=
  ⟨1, "", some line, []⟩

/-- A run whose records cannot go to a file. If the file only cannot be opened,
the run breaks off. -/
def ofLogFileError (error : LogFileError) : Report :=
  match error.message? with
  | some message => .refusal ("Failed to initialize logging: " ++ message)
  | none => ⟨101, "", none, []⟩

end Report

/-- The settings of the environment, with those of the arguments over them. -/
def sessionSettings (environment : String → Option String) (arguments : Arguments) :
    Except InvalidSetting Settings := do
  let settings ← Settings.ofEnvironment environment
  let maskTable ←
    match arguments.maskTable with
    | none => .ok settings.maskTable
    | some text => MaskTable.parse text
  return {
    showsRegisters := settings.showsRegisters || arguments.showDebugRegs
    assumesRestriction := settings.assumesRestriction || arguments.assumeRestrictedMasks
    maskTable }

/-- The logging settings of the environment, with those of the arguments over
them. The arguments can give a file or ask for the usual one. -/
def loggingSettings (environment : String → Option String) (arguments : Arguments) :
    Except Report LoggingSettings := do
  let settings ← (LoggingSettings.ofEnvironment environment).mapError fun error =>
    .refusal ("Failed to read logging configuration: " ++ error.message)
  let file :=
    if arguments.logToFile then some (LogPath.usual (environment homeVariable))
    else arguments.logFile
  let settings :=
    ((settings.withLevel arguments.logLevel).withFormat arguments.logFormat).withFile file
  settings.checkFile.mapError Report.ofLogFileError
  return settings

def padRight (width : Nat) (text : String) : String :=
  text ++ String.ofList (List.replicate (width - text.length) ' ')

def startSession (target : Target) (leader : ThreadId) (settings : Settings) :
    Session SimulatedKernel :=
  .start target.kernel leader settings none

def infoReport (settings : Settings) : Report :=
  let found := Target.all.map fun target =>
    (target, (startSession target ⟨1⟩ settings).capabilities)
  .success
    (s!"Backends: sim\nMask table: {settings.maskTable}\n\nTargets:\n" ++
      String.join (found.map fun (target, caps, _) => s!"  {padRight 13 target.label} {caps}\n"))
    (found.flatMap fun (_, _, session) => session.notices)

/-- The register contents or the registration that make a point work. -/
def hardwareLine (caps : Capabilities) (point : EncodedPoint) : String :=
  match caps.interface, point.span with
  | .registerArray, .bytes mask =>
      "      value=" ++ Hexadecimal.text point.address.toNat ++ " ctrl=" ++
        Hexadecimal.padded 8 (Arm.ControlWord.encode point.kind mask).toNat ++ "\n"
  | .handles, _ =>
      let descriptor := Power.Descriptor.ofPoint point
      "      trigger=" ++ Hexadecimal.text descriptor.triggerType.toNat ++
        " mode=" ++ Hexadecimal.text descriptor.addressMode.toNat ++
        " condition=" ++ Hexadecimal.padded 8 descriptor.conditionMode.toNat ++
        " addr=" ++ Hexadecimal.text descriptor.address.toNat ++
        " addr2=" ++ Hexadecimal.text descriptor.secondAddress.toNat ++
        " value=" ++ Hexadecimal.text descriptor.conditionValue.toNat ++ "\n"
  | .legacy, _ =>
      let value := Power.dataBreakpointValue point.address point.kind caps.architecture.isBookE
      "      dabr=" ++ Hexadecimal.text value.toNat ++ "\n"
  | _, _ => ""

def pointLines (caps : Capabilities) (index : Nat) (point : EncodedPoint) : String :=
  s!"  [{index}] {point}\n      covers {point.watched}\n" ++ hardwareLine caps point

def encodeReport (settings : Settings) (target : Target) (kind : PointKind) (address : UInt64)
    (extent : Extent) : Report :=
  let (caps, session) := (startSession target ⟨1⟩ settings).capabilities
  let points := match extent with
    | .mask mask => (encodeMasked kind ⟨address⟩ mask caps).map fun point => [point]
    | .bytes length => session.encodeRequest (requestFor kind address length) caps none
  match points with
  | .error error => .failure "" error session.notices
  | .ok points =>
      .success
        (s!"{caps}\n{points.length} fragment(s):\n" ++
          String.join (points.zipIdx.map fun (point, index) => pointLines caps index point))
        session.notices

def regionReport (settings : Settings) (target : Target) (address length : UInt64) : Report :=
  let address : Address := ⟨address⟩
  let (isWatchable, session) := (startSession target ⟨1⟩ settings).canWatch address length
  let verdict := if isWatchable then "can" else "cannot"
  .success s!"{address} + {length} {verdict} be watched in hardware\n" session.notices

def stateName : RestrictionState → String
  | .capable => "Capable"
  | .degraded => "Degraded"

/-- The lines at the end of a replay. -/
def closingLines (session : Session SimulatedKernel) : String :=
  s!"\nDegradation: {stateName session.restriction.state}\n" ++
    s!"Kernel calls: {session.kernel.calls.length}\n" ++
    String.join (session.liveSets.map ThreadPoints.text)

def simulateReport (settings : Settings) (target : Target) (leader : ThreadId) (keepsGoing : Bool)
    (steps : List Step) : Report :=
  let (caps, session) := (startSession target leader settings).capabilities
  match runSteps keepsGoing 1 session steps with
  | (lines, .error error, session) => .failure (s!"{caps}\n" ++ lines) error session.notices
  | (lines, .ok (), session) =>
      .success (s!"{caps}\n" ++ lines ++ closingLines session) session.notices

def Command.report (settings : Settings) : Command → Report
  | .info => infoReport settings
  | .encode target kind address extent => encodeReport settings target kind address extent
  | .region target address length => regionReport settings target address length
  | .simulate target leader keepsGoing steps =>
      simulateReport settings target leader keepsGoing steps

def usage : String :=
  "Usage: hwpoint [options] <info|encode|region|simulate> [arguments]\n"

def versionLine : String :=
  "hwpoint 0.0.0\n"

/-- Reads a command line and carries it out. The records are those that the
logging settings show. -/
def run (environment : String → Option String) (words : List String) : Report :=
  match Invocation.parse words with
  | .error .help => .success usage []
  | .error .version => .success versionLine []
  | .error .usage => ⟨2, "", none, []⟩
  | .ok invocation =>
      match loggingSettings environment invocation.arguments with
      | .error report => report
      | .ok logging =>
          match sessionSettings environment invocation.arguments with
          | .error cause => .failure "" (.invalidSetting cause) []
          | .ok settings =>
              let report := invocation.command.report settings
              { report with
                records := report.records.filter fun notice =>
                  notice.level.isShown logging.threshold }

end DebugRegisters.CommandLine
