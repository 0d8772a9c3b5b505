import Courier.CommandLine.Run
import Courier.Settings.Assignments

/-!
The program. It reads the files that its arguments name and prints what the command gives. No network stands behind it,
so that every message that it sends is met with silence.
-/

namespace Courier

/-- The files that could be meant by arguments. What cannot be read is no file. -/
def filesNamed (arguments : List String) : IO CommandLine.Files := do
  let mut files := []
  for a in arguments do
    for name in [a, (CommandLine.attached? "--data" a).getD a, (a.drop 2).toString] do
      try files := (name, ← IO.FS.readFile name) :: files
      catch _ => pure ()
  return files

end Courier

open Courier

/-- Runs the program. -/
def main (arguments : List String) : IO UInt32 := do
  let files ← filesNamed arguments
  let (ending, _) := CommandLine.run arguments files .standard ⟨[], []⟩
  (← IO.getStdout).putStr ending.output
  (← IO.getStderr).putStr ending.diagnostics
  match ending with
  | .raised e => (← IO.getStderr).putStr (e.message ++ "\n")
  | _ => pure ()
  return UInt32.ofNat ending.exitCode
