/-
  The program: the command line on the files and variables of this computer.
-/
import PlayStation.CommandLine

open PlayStation

/-- The files and variables of this computer. -/
def thisComputer : CommandLine.Host IO where
  fileContents path := do
    try
      pure (some (← IO.FS.readBinFile path))
    catch _ => pure none
  getVariable name := IO.getEnv name

/-- Runs the machine; the exit code says how that went. -/
def main (arguments : List String) : IO UInt32 := do
  let report ← CommandLine.run thisComputer arguments
  IO.print report.output
  match report.fault with
  | some fault => IO.eprintln ("Error: " ++ fault.message)
  | none => pure ()
  pure report.exit
