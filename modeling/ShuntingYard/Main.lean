/-
The command line: runs the demonstration.
-/
import ShuntingYard.Demo

/-- Writes what the demonstration reports, and exits with its code. -/
def main : IO UInt32 := do
  (← IO.getStdout).putStr ShuntingYard.Demo.report.output
  (← IO.getStderr).putStr ShuntingYard.Demo.report.errors
  return ShuntingYard.Demo.report.code.toUInt32
