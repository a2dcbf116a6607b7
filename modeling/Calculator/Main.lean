import Calculator.CommandLine.Run

/-!
# The program

Reads the arguments and the environment, runs the command, prints its output and exits with its
code. The panel needs a screen, which a terminal program does not have.
-/

namespace Calculator

/-- The variables of the process, which the system keeps as a text with a NUL behind each. -/
def environment : IO Environment := do
  try
    let text ← IO.FS.readFile "/proc/self/environ"
    return Environment.ofText text.toList
  catch _ => return []

end Calculator

open Calculator in
/-- Runs the command line. -/
def main (args : List String) : IO UInt32 := do
  match CommandLine.run (args.map String.toList) (← environment) with
  | .exit code output =>
    IO.print (String.ofList output)
    return code.toUInt32
  | .openPanel _ =>
    IO.eprintln "erreur: GUI: aucun écran"
    return 1
