import DebugRegisters.CommandLine.Grammar
import DebugRegisters.Logging
import DebugRegisters.Replay.Step
import DebugRegisters.Replay.Target

/-!
# Arguments

The commands of the tool and the options in front of them and behind them.
Options about logging and about the session may stand in both places, and the
one behind the command's name counts. Within one place an option may be given
once.

Arguments are taken in order, so that a request for help counts before any fault
behind it.
-/

set_option autoImplicit false

namespace DebugRegisters.CommandLine

open Replay

inductive ToolOption where
  | logLevel
  | logFormat
  | logFile
  | logToFile
  | showDebugRegs
  | assumeRestrictedMasks
  | maskTable
  | target
  | kind
  | mask
  | leader
  | keepGoing
  | help
  | version
  deriving DecidableEq, Repr

def sharedRules : List (OptionRule ToolOption) :=
  [⟨.logLevel, "log-level", none, true⟩, ⟨.logFormat, "log-format", none, true⟩,
    ⟨.logFile, "log-file", none, true⟩, ⟨.logToFile, "log-to-file", none, false⟩,
    ⟨.showDebugRegs, "show-debug-regs", none, false⟩,
    ⟨.assumeRestrictedMasks, "assume-restricted-masks", none, false⟩,
    ⟨.maskTable, "mask-table", none, true⟩, ⟨.help, "help", some 'h', false⟩]

def targetRule : OptionRule ToolOption := ⟨.target, "target", some 't', true⟩

inductive CommandName where
  | info
  | encode
  | region
  | simulate
  deriving DecidableEq, Repr

namespace CommandName

def all : List CommandName := [.info, .encode, .region, .simulate]

def text : CommandName → String
  | .info => "info"
  | .encode => "encode"
  | .region => "region"
  | .simulate => "simulate"

def ofText? (text : String) : Option CommandName :=
  all.find? fun command => command.text = text

def ownRules : CommandName → List (OptionRule ToolOption)
  | .info => []
  | .encode => [targetRule, ⟨.kind, "kind", some 'k', true⟩, ⟨.mask, "mask", none, true⟩]
  | .region => [targetRule]
  | .simulate =>
      [targetRule, ⟨.leader, "leader", none, true⟩, ⟨.keepGoing, "keep-going", none, false⟩]

def maxNumbers : CommandName → Nat
  | .encode | .region => 2
  | .info | .simulate => 0

end CommandName

/-- The arguments read in one place: in front of the command's name or behind it. -/
structure Arguments where
  logLevel : Option LogLevel := none
  logFormat : Option LogFormat := none
  logFile : Option String := none
  logToFile : Bool := false
  showDebugRegs : Bool := false
  assumeRestrictedMasks : Bool := false
  maskTable : Option String := none
  target : Option Target := none
  kind : Option PointKind := none
  mask : Option UInt64 := none
  leader : Option Int := none
  keepGoing : Bool := false
  numbers : List UInt64 := []
  steps : List Step := []

inductive Halt where
  | help
  | version
  /-- The command line is against the rules. -/
  | usage
  deriving DecidableEq, Repr

/-- Sets an option that was not given in this place before. -/
def once {α : Type} (given : Option α) (value : Option α) : Except Halt (Option α) :=
  match given, value with
  | none, some value => .ok (some value)
  | _, _ => .error .usage

def onceOn (given : Bool) : Except Halt Bool :=
  if given then .error .usage else .ok true

def readSigned32? (text : String) : Option Int :=
  match text.toList with
  | '-' :: '+' :: _ => none
  | '-' :: digits => (Numeral.read 10 0x80000000 digits).toOption.map fun value => -(value : Int)
  | digits => (Numeral.read 10 0x7fffffff digits).toOption.map fun value => (value : Int)

namespace Arguments

def takeValue (arguments : Arguments) (option : ToolOption) (value : String) :
    Except Halt Arguments :=
  match option with
  | .logLevel => do
      return { arguments with logLevel := ← once arguments.logLevel (LogLevel.parse value).toOption }
  | .logFormat => do
      return { arguments with
        logFormat := ← once arguments.logFormat (LogFormat.parse value).toOption }
  | .logFile => do
      return { arguments with
        logFile := ← once arguments.logFile (if value = "" then none else some value) }
  | .maskTable => do
      return { arguments with maskTable := ← once arguments.maskTable (some value) }
  | .target => do
      return { arguments with target := ← once arguments.target (Target.ofName? value) }
  | .kind => do
      return { arguments with kind := ← once arguments.kind (readKind value false).toOption }
  | .mask => do
      return { arguments with mask := ← once arguments.mask (readNumber value).toOption }
  | .leader => do
      return { arguments with leader := ← once arguments.leader (readSigned32? value) }
  | .logToFile | .showDebugRegs | .assumeRestrictedMasks | .keepGoing | .help | .version =>
      .error .usage

def takeSwitch (arguments : Arguments) : ToolOption → Except Halt Arguments
  | .logToFile => do return { arguments with logToFile := ← onceOn arguments.logToFile }
  | .showDebugRegs => do return { arguments with showDebugRegs := ← onceOn arguments.showDebugRegs }
  | .assumeRestrictedMasks => do
      return { arguments with
        assumeRestrictedMasks := ← onceOn arguments.assumeRestrictedMasks }
  | .keepGoing => do return { arguments with keepGoing := ← onceOn arguments.keepGoing }
  | .help => .error .help
  | .version => .error .version
  | .logLevel | .logFormat | .logFile | .maskTable | .target | .kind | .mask | .leader =>
      .error .usage

/-- Takes a positional argument: a step of a replay, or a number. -/
def takePositional (command : CommandName) (arguments : Arguments) (text : String) :
    Except Halt Arguments :=
  if command = .simulate then
    match Step.parse text with
    | .ok step => .ok { arguments with steps := arguments.steps ++ [step] }
    | .error _ => .error .usage
  else if arguments.numbers.length < command.maxNumbers then
    match readNumber text with
    | .ok number => .ok { arguments with numbers := arguments.numbers ++ [number] }
    | .error _ => .error .usage
  else .error .usage

/-- Takes what was read in front of the command's name, where nothing is
positional. -/
def takeLeading (arguments : Arguments) : Mark ToolOption → Except Halt Arguments
  | .switch option => arguments.takeSwitch option
  | .valued option value => arguments.takeValue option value
  | .positional _ | .misuse => .error .usage

def takeTrailing (command : CommandName) (arguments : Arguments) :
    Mark ToolOption → Except Halt Arguments
  | .switch option => arguments.takeSwitch option
  | .valued option value => arguments.takeValue option value
  | .positional text => arguments.takePositional command text
  | .misuse => .error .usage

/-- Records go to one file: a given one or the usual one. -/
def conflicts (arguments : Arguments) : Bool :=
  arguments.logToFile && arguments.logFile.isSome

def merge (leading trailing : Arguments) : Arguments :=
  { trailing with
    logLevel := trailing.logLevel.or leading.logLevel
    logFormat := trailing.logFormat.or leading.logFormat
    logFile := trailing.logFile.or leading.logFile
    logToFile := trailing.logToFile || leading.logToFile
    showDebugRegs := trailing.showDebugRegs || leading.showDebugRegs
    assumeRestrictedMasks := trailing.assumeRestrictedMasks || leading.assumeRestrictedMasks
    maskTable := trailing.maskTable.or leading.maskTable }

end Arguments

/-- What to watch: `length` bytes, or the addresses that agree in a mask. -/
inductive Extent where
  | bytes (length : Option UInt64)
  | mask (mask : UInt64)
  deriving DecidableEq, Repr

inductive Command where
  | info
  | encode (target : Target) (kind : PointKind) (address : UInt64) (extent : Extent)
  | region (target : Target) (address length : UInt64)
  | simulate (target : Target) (leader : ThreadId) (keepsGoing : Bool) (steps : List Step)
  deriving DecidableEq, Repr

/-- The command that the arguments behind its name make, if they suffice. A mask
and a length are not given together. -/
def Command.ofArguments? (name : CommandName) (arguments : Arguments) : Option Command :=
  let target := arguments.target.getD .aarch64
  match name with
  | .info => some .info
  | .encode =>
      let kind := arguments.kind.getD .write
      match arguments.numbers, arguments.mask with
      | [address], none => some (.encode target kind address (.bytes none))
      | [address, length], none => some (.encode target kind address (.bytes (some length)))
      | [address], some mask => some (.encode target kind address (.mask mask))
      | _, _ => none
  | .region =>
      match arguments.numbers with
      | [address, length] => some (.region target address length)
      | _ => none
  | .simulate =>
      if arguments.steps.isEmpty then none
      else some (.simulate target ⟨arguments.leader.getD 1000⟩ arguments.keepGoing arguments.steps)

/-- A command line that can be carried out. The arguments are those of both
places together. -/
structure Invocation where
  command : Command
  arguments : Arguments

/-- Reads the words behind `help`: at most the name of one command. -/
def readHelp : List String → Halt
  | [] => .help
  | [name] => if name = "help" ∨ (CommandName.ofText? name).isSome then .help else .usage
  | _ => .usage

def Invocation.parse (words : List String) : Except Halt Invocation := do
  let rootRules := sharedRules ++ [⟨.version, "version", some 'V', false⟩]
  let (marks, command) := readUntilCommand rootRules words
  let leading ← marks.foldlM Arguments.takeLeading {}
  match command with
  | none => throw .usage
  | some ("help", rest) => throw (readHelp rest)
  | some (name, rest) =>
      match CommandName.ofText? name with
      | none => throw .usage
      | some name =>
          let trailing ←
            (readWords (sharedRules ++ name.ownRules) rest).foldlM (Arguments.takeTrailing name) {}
          match Command.ofArguments? name trailing with
          | none => throw .usage
          | some command =>
              if leading.conflicts || trailing.conflicts then throw .usage
              else return ⟨command, leading.merge trailing⟩

end DebugRegisters.CommandLine
