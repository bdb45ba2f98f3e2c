/-
This file is the program: it hands its arguments to the command line, writes what the run leaves
behind, and exits as the run ended.
-/

import IntExpr.CommandLine

/-- Run the command line. An abandoned run exits like a failed one, and the log of a failure tells
no calls. -/
def main (arguments : List String) : IO UInt32 := do
  let outcome := IntExpr.CommandLine.run IntExpr.CommandLine.untraced arguments
  let stdout ← IO.getStdout
  let stderr ← IO.getStderr
  stdout.putStr outcome.stdout
  stderr.putStr outcome.stderr
  match outcome.ending with
  | .exit status => return status.toUInt32
  | .abandoned message => do
    stderr.putStrLn message
    return 1
