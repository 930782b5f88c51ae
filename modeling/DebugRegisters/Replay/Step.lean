import DebugRegisters.Point
import DebugRegisters.Replay.KindName
import DebugRegisters.Replay.Number
import DebugRegisters.Text.Fields
import DebugRegisters.Tracee

/-!
# Steps of a replay

A step is written as fields with colons between them. The first field names the
step, in lower case and without blanks:

* `insert:kind:address`, `insert:kind:address:length`, and the same for `remove`
* `thread:number`, `exit:number`, `vanish:number`
* `resume`, `resume:number`
* `reject`
-/

set_option autoImplicit false

namespace DebugRegisters.Replay

inductive Step where
  /-- Install a point on every thread. -/
  | insert (request : PointRequest)
  /-- Remove a point from every thread. -/
  | remove (request : PointRequest)
  /-- A thread appears. -/
  | newThread (thread : ThreadId)
  /-- A thread exits. -/
  | exit (thread : ThreadId)
  /-- Resume one thread, or all. -/
  | resume (thread : Option ThreadId)
  /-- The kernel rejects the next bank write. -/
  | reject
  /-- A thread disappears from the kernel without notice. -/
  | vanish (thread : ThreadId)
  deriving DecidableEq, Repr

inductive StepError where
  | unknown (given : String)
  | invalidKind (given : String) (cause : KindError)
  | invalidNumber (cause : NumberError)
  | threadOutOfRange (number : UInt64)
  deriving DecidableEq, Repr

def StepError.message : StepError → String
  | .unknown given => s!"invalid step '{given}'"
  | .invalidKind given cause => s!"invalid kind '{given}': " ++ cause.message
  | .invalidNumber cause => cause.message
  | .threadOutOfRange number => s!"thread id {number} out of range"

/-- The request for a kind, an address and perhaps a length. A watch without a
length has one byte. A breakpoint without one, or with length zero, stops at a
single instruction. -/
def requestFor (kind : PointKind) (address : UInt64) (length : Option UInt64) : PointRequest :=
  match kind, length with
  | .execute, some length =>
      if 0 < length then .rangedBreakpoint ⟨address⟩ length else .breakpoint ⟨address⟩
  | .execute, none => .breakpoint ⟨address⟩
  | kind, length => .watch kind ⟨address⟩ (length.getD 1)

namespace Step

def readField (field : List Char) : Except StepError UInt64 :=
  (readNumber (String.ofList field)).mapError .invalidNumber

/-- Thread numbers are positive and signed, so they have 31 bits. -/
def readThread (field : List Char) : Except StepError ThreadId := do
  let number ← readField field
  if number.toNat ≤ 0x7fffffff then .ok ⟨number.toNat⟩ else .error (.threadOutOfRange number)

/-- Reads what follows `insert` or `remove`. Of several faults, the one in the
kind is reported first, then the one in the length. -/
def readRequest (kind address : List Char) (length : Option (List Char)) :
    Except StepError PointRequest := do
  let kind ← (readKind (String.ofList kind) true).mapError (.invalidKind (String.ofList kind))
  let length ← length.mapM readField
  let address ← readField address
  return requestFor kind address length

/-- The fields that a step has, by the name in front. -/
def ofFields? : List (List Char) → Option (Except StepError Step)
  | [name, kind, address] =>
      if name = "insert".toList then some ((readRequest kind address none).map .insert)
      else if name = "remove".toList then some ((readRequest kind address none).map .remove)
      else none
  | [name, kind, address, length] =>
      if name = "insert".toList then some ((readRequest kind address (some length)).map .insert)
      else if name = "remove".toList then some ((readRequest kind address (some length)).map .remove)
      else none
  | [name, number] =>
      if name = "thread".toList then some ((readThread number).map .newThread)
      else if name = "exit".toList then some ((readThread number).map .exit)
      else if name = "vanish".toList then some ((readThread number).map .vanish)
      else if name = "resume".toList then
        some ((readThread number).map fun thread => .resume (some thread))
      else none
  | [name] =>
      if name = "resume".toList then some (.ok (.resume none))
      else if name = "reject".toList then some (.ok .reject)
      else none
  | _ => none

def parse (text : String) : Except StepError Step :=
  (ofFields? (Text.fields ':' text.toList)).getD (.error (.unknown text))

def text : Step → String
  | .insert request => s!"insert {request.kind} at {request.address} (length {request.length})"
  | .remove request => s!"remove {request.kind} at {request.address} (length {request.length})"
  | .newThread thread => s!"new thread {thread}"
  | .exit thread => s!"thread {thread} exits"
  | .resume (some thread) => s!"resume thread {thread}"
  | .resume none => "resume all threads"
  | .reject => "reject next register write"
  | .vanish thread => s!"thread {thread} vanishes"

instance : ToString Step := ⟨text⟩

end Step

end DebugRegisters.Replay
