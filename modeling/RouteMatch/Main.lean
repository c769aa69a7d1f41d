import RouteMatch.CommandLine

/-!
# The program

## Main definitions

* `main` — runs the command line and prints its output.
-/

/-- Runs the command line. -/
def main (words : List String) : IO UInt32 := do
  match RouteMatch.CommandLine.run words with
  | .ok output =>
    (← IO.getStdout).putStr output.stdout
    (← IO.getStderr).putStr output.stderr
    return output.status.toUInt32
  | .error failure =>
    (← IO.getStderr).putStr (failure.message ++ "\n")
    return 1
