/-
# SciCalc.Main -- the program

Reads standard input where the command line gives no expressions, writes what the run
has written, and ends with the status zero, one after a fault that ended the run
early, or two for a command line that is refused.
-/
import SciCalc.CommandLine.Session

open SciCalc CommandLine

def usage : String :=
  "usage: [-h] [-v] [-a UNIT] [-l] [-k PLACES] [-s VARIABLE | -i A B] [--guess X]\n" ++
  "       [--bounds A B] [--method METHOD] [--variable NAME] [-e EXPRESSION ... | -p [PROMPT]]\n" ++
  "       [-G | -D]\n"

/-- Standard input, if the run reads it. -/
def inputFor (arguments : List String) : IO String := do
  match Options.ofArguments arguments with
  | .ok o => if o.expressions.isSome then return "" else (← IO.getStdin).readToEnd
  | .error _ => return ""

def main (arguments : List String) : IO UInt32 := do
  match run arguments (← inputFor arguments) with
  | .rejected =>
      IO.eprint usage
      return 2
  | .help =>
      IO.print usage
      return 0
  | .done output =>
      IO.print output.out
      IO.eprint output.err
      match output.raised with
      | some fault =>
          IO.eprintln fault.message
          return 1
      | none => return 0
