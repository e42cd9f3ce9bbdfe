import TypeLattice.Cli.Switch

/-!
# Why a command line is not carried out

A command line that asks for help or breaks a rule is not carried out; `Halt` says why. The exit
status is 0 for help and 2 otherwise. `Halt.text` is what the program says instead of an answer.
-/
namespace TypeLattice.Cli

/-- Why a command line is not carried out. -/
inductive Halt where
  /-- It asks for help. -/
  | help
  /-- It holds neither a command nor an option that asks for anything. -/
  | empty
  /-- It holds options and no command. -/
  | missingCommand
  /-- A word in place of a command is none. -/
  | unknownCommand (word : String)
  /-- A word is no option, or stands where no word is taken. -/
  | unknownArgument (word : String)
  /-- A value of `--color` is missing or none of the choices. -/
  | invalidColor (value : Option String)
  /-- An option that takes no value has one. -/
  | unexpectedValue (option : Switch)
  /-- An option is repeated. -/
  | repeated (option : Switch)
  /-- Two options exclude each other. -/
  | exclusive (one other : Switch)
  /-- There is no type to measure. -/
  | missingNames
  deriving DecidableEq, Repr

namespace Halt

/-- The exit status: asking for help is no failure. -/
def status : Halt → Nat
  | .help => 0
  | _ => 2

/-- What is wrong with the command line. -/
def message : Halt → String
  | help => "help requested"
  | empty => "no command given"
  | missingCommand => "a command is required"
  | unknownCommand word => "unknown command `" ++ word ++ "`"
  | unknownArgument word => "unexpected argument `" ++ word ++ "`"
  | invalidColor none => "a value is required for `--color`"
  | invalidColor (some value) => "invalid value `" ++ value ++ "` for `--color`"
  | unexpectedValue option => "`--" ++ option.name ++ "` takes no value"
  | repeated option => "`--" ++ option.name ++ "` is given twice"
  | exclusive one other => "`--" ++ one.name ++ "` cannot be used with `--" ++ other.name ++ "`"
  | missingNames => "a type is required"

end Halt

/-! ## What is said then -/

/-- The help text. -/
def helpText : String :=
  "Inspect the IR type lattice\n\n" ++
  "Usage: cfgir [OPTIONS] <COMMAND>\n\n" ++
  "Commands:\n" ++
  "  types            List the type lattice\n" ++
  "  size TYPE...     Print the byte size of each type\n" ++
  "  help             Print this help\n\n" ++
  "Options:\n" ++
  "  -v, --verbose    Increase log verbosity (-v info, -vv debug, -vvv trace)\n" ++
  "  -h, --help       Print this help\n" ++
  "      --json       Print rows as JSON\n" ++
  "      --scalars    Show only scalar kinds (types)\n" ++
  "      --references Show only builtin references (types)\n" ++
  "      --color WHEN Colorize output: auto, always or never (types)\n"

/-- What is printed instead of an answer: help as it was asked for, or the error. -/
def Halt.text : Halt → String
  | .help | .empty => helpText
  | h => "error: " ++ h.message ++ "\n\nFor more information, try `--help`.\n"

end TypeLattice.Cli
