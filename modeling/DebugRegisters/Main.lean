import DebugRegisters.CommandLine.Report

/-!
# The command-line tool

Gathers the words of the command line and the variables of the environment, and
prints the report.
-/

set_option autoImplicit false

open DebugRegisters

def environmentNames : List String :=
  [Settings.showVariable, Settings.assumeVariable, Settings.tableVariable,
    LoggingSettings.formatVariable, LoggingSettings.fileVariable, homeVariable]

def main (words : List String) : IO UInt32 := do
  let found ← environmentNames.mapM fun name => do
    return (name, ← IO.getEnv name)
  let report := CommandLine.run (fun name => (found.lookup name).join) words
  let output ← IO.getStdout
  let errors ← IO.getStderr
  for notice in report.records do
    errors.putStrLn notice.line
  output.putStr report.output
  match report.error with
  | none => pure ()
  | some line => errors.putStrLn line
  return UInt32.ofNat report.exitCode
