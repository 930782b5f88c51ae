/-!
# Command-line words

Options and positional arguments as they are written on a command line. A long
option takes its value after an equals sign or from the next word; a short one
also directly behind its letter. Two dashes alone end the options.

The words are read from the left, and what is read is a list of marks. A word
that cannot be read ends the list.
-/

set_option autoImplicit false

namespace DebugRegisters.CommandLine

/-- An option: its long name, its letter if it has one, and whether it takes a value. -/
structure OptionRule (ι : Type) where
  option : ι
  long : String
  short : Option Char
  takesValue : Bool

inductive Mark (ι : Type) where
  | switch (option : ι)
  | valued (option : ι) (value : String)
  | positional (text : String)
  /-- A word that fits no rule, or an option without its value. -/
  | misuse
  deriving DecidableEq, Repr

/-- The word is read as an option and not as a value. One dash alone is a value. -/
def looksLikeOption (word : String) : Bool :=
  match word.toList with
  | '-' :: _ :: _ => true
  | _ => false

def cutAtEquals : List Char → List Char × Option (List Char)
  | [] => ([], none)
  | '=' :: rest => ([], some rest)
  | char :: rest =>
      let (before, after) := cutAtEquals rest
      (char :: before, after)

inductive Reading (ι : Type) where
  | mark (mark : Mark ι)
  /-- An option whose value is the next word. -/
  | awaiting (option : ι)
  | endOfOptions

variable {ι : Type}

def readLong (rules : List (OptionRule ι)) (body : List Char) : Reading ι :=
  let (name, value) := cutAtEquals body
  match rules.find? fun rule => rule.long.toList = name with
  | none => .mark .misuse
  | some rule =>
      match rule.takesValue, value with
      | true, some value => .mark (.valued rule.option (String.ofList value))
      | true, none => .awaiting rule.option
      | false, some _ => .mark .misuse
      | false, none => .mark (.switch rule.option)

/-- Reads the letters of a word with one dash. No letter without a value has
another behind it in any of the rules, so the first one decides. -/
def readShort (rules : List (OptionRule ι)) (letter : Char) (behind : List Char) : Reading ι :=
  match rules.find? fun rule => rule.short = some letter with
  | none => .mark .misuse
  | some rule =>
      if rule.takesValue then
        match behind with
        | [] => .awaiting rule.option
        | '=' :: value => .mark (.valued rule.option (String.ofList value))
        | value => .mark (.valued rule.option (String.ofList value))
      else .mark (.switch rule.option)

def readWord (rules : List (OptionRule ι)) (word : String) : Reading ι :=
  match word.toList with
  | ['-', '-'] => .endOfOptions
  | '-' :: '-' :: body => readLong rules body
  | '-' :: letter :: behind => readShort rules letter behind
  | _ => .mark (.positional word)

/-- Reads the words of a command that has no commands of its own. -/
def readWords (rules : List (OptionRule ι)) : List String → List (Mark ι)
  | [] => []
  | word :: rest =>
      match readWord rules word with
      | .mark .misuse => [.misuse]
      | .mark mark => mark :: readWords rules rest
      | .endOfOptions => rest.map .positional
      | .awaiting option =>
          match rest with
          | [] => [.misuse]
          | value :: rest =>
              if looksLikeOption value then [.misuse]
              else .valued option value :: readWords rules rest

/-- Reads the words in front of a command's name. Answers what was read, and the
name with the words behind it if there is one. -/
def readUntilCommand (rules : List (OptionRule ι)) :
    List String → List (Mark ι) × Option (String × List String)
  | [] => ([], none)
  | word :: rest =>
      match readWord rules word with
      | .mark .misuse => ([.misuse], none)
      | .mark (.positional name) => ([], some (name, rest))
      | .mark mark =>
          let (marks, command) := readUntilCommand rules rest
          (mark :: marks, command)
      | .endOfOptions => (rest.map .positional, none)
      | .awaiting option =>
          match rest with
          | [] => ([.misuse], none)
          | value :: rest =>
              if looksLikeOption value then ([.misuse], none)
              else
                let (marks, command) := readUntilCommand rules rest
                (.valued option value :: marks, command)

end DebugRegisters.CommandLine
