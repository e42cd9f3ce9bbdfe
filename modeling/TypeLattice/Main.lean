import TypeLattice.Cli.Halt
import TypeLattice.Cli.Run

/-!
# The program

Reads the command line and the log setting, prints the answer, and exits with its status.
-/
open TypeLattice TypeLattice.Cli

/-- Runs the program. -/
def main (args : List String) : IO UInt32 := do
  let setting := (← IO.getEnv "RUST_LOG").map Log.Setting.ofText
  let terminal ← (← IO.getStdout).isTty
  let answer := respond setting terminal args
  match answer with
  | .ok response =>
    IO.print response.output
    IO.eprint response.errorOutput
  | .error halt => if halt.status = 0 then IO.print halt.text else IO.eprint halt.text
  return (exitStatus answer).toUInt32
