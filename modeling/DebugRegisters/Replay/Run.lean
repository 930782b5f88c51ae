import DebugRegisters.Kernel.Simulated
import DebugRegisters.Replay.Step
import DebugRegisters.Session.Change
import DebugRegisters.Session.Resume
import DebugRegisters.Session.Threads

/-!
# Replays

A session over a simulated kernel, taken through a list of steps. The report has
a line for every step taken. It ends at the first failing step, unless the
replay is to go on after failures.
-/

set_option autoImplicit false

namespace DebugRegisters.Replay

/-- Resumes threads in order, up to the first failure. -/
def resumeEach (session : Session SimulatedKernel) :
    List ThreadId → Outcome SimulatedKernel Unit
  | [] => (.ok (), session)
  | thread :: rest =>
      match session.prepareToResume thread with
      | (.error error, session) => (.error error, session)
      | (.ok (), session) => resumeEach session rest

def Step.run (session : Session SimulatedKernel) : Step → Outcome SimulatedKernel Unit
  | .insert request => session.insert request
  | .remove request => session.remove request
  | .newThread thread => session.addThread thread
  | .exit thread => (.ok (), session.removeThread thread)
  | .resume (some thread) => session.prepareToResume thread
  | .resume none => resumeEach session session.threads
  | .reject =>
      (.ok (), { session with kernel := session.kernel.failNext .writeRegisters none .rejected })
  | .vanish thread => (.ok (), { session with kernel := session.kernel.removeThread thread })

/-- The line about a step, numbered from one. -/
def stepLine (number : Nat) (step : Step) : Except PointError Unit → String
  | .ok () => s!"[{number}] {step}: ok\n"
  | .error error => s!"[{number}] {step}: {error}\n"

/-- Takes steps in order; `number` is that of the first. Answers the lines about
them, and the failure that ended the replay. -/
def runSteps (keepsGoing : Bool) (number : Nat) (session : Session SimulatedKernel) :
    List Step → String × Outcome SimulatedKernel Unit
  | [] => ("", .ok (), session)
  | step :: rest =>
      match step.run session with
      | (.error error, session) =>
          if keepsGoing then
            let (lines, outcome) := runSteps keepsGoing (number + 1) session rest
            (stepLine number step (.error error) ++ lines, outcome)
          else (stepLine number step (.error error), .error error, session)
      | (.ok (), session) =>
          let (lines, outcome) := runSteps keepsGoing (number + 1) session rest
          (stepLine number step (.ok ()) ++ lines, outcome)

end DebugRegisters.Replay
