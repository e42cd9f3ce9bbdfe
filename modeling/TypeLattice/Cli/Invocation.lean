import TypeLattice.Cli.Reading

/-!
# Invocations

A command line that breaks no rule asks for one of two commands, `types` or `size`, with a
verbosity. `Invocation.ofWords` reads it. Before the command only options that are known
everywhere may stand, and a verbosity given after the command takes the place of one given
before it.
-/
namespace TypeLattice.Cli

/-- The arguments of `types`, which lists the type lattice. -/
structure TypesCommand where
  scalars : Bool
  references : Bool
  json : Bool
  color : ColorWhen
  deriving DecidableEq, Repr

/-- Whether the dump is coloured. JSON output never is. -/
def TypesCommand.colored (terminal : Bool) (c : TypesCommand) : Bool :=
  !c.json && c.color.colors terminal

/-- The arguments of `size`, which prints the byte size of each type. -/
structure SizeCommand where
  /-- The type names to measure, one or more. -/
  names : List String
  json : Bool
  deriving DecidableEq, Repr

/-- A command with its arguments. -/
inductive Command where
  | types (c : TypesCommand)
  | size (c : SizeCommand)
  deriving DecidableEq, Repr

/-- What a command line asks for. -/
structure Invocation where
  /-- How often `-v` was given: warnings only, then info, debug, trace. -/
  verbosity : Nat
  command : Command
  deriving DecidableEq, Repr

namespace Reading

/-- The command `types` as the words describe it. Leaving out one section shows the other,
so the two options that do exclude each other. -/
def types (r : Reading) : Except Halt Command :=
  if r.onlyScalars && r.onlyReferences then .error (.exclusive .scalars .references)
  else .ok (.types ⟨!r.onlyReferences, !r.onlyScalars, r.json, r.color.getD .auto⟩)

/-- The command `size` as the words describe it. -/
def size (r : Reading) : Except Halt Command :=
  if r.names = [] then .error .missingNames else .ok (.size ⟨r.names, r.json⟩)

end Reading

namespace Invocation

/-- The invocation of a command that was read after a verbosity given before it. -/
def ofReading (before : Nat) (command : Reading → Except Halt Command) (r : Reading) :
    Except Halt Invocation := do
  return ⟨if r.verbosity = 0 then before else r.verbosity, ← command r⟩

/-- The words that may stand in place of a command. -/
def commandNames : List String := ["types", "size", "help"]

/-- What follows the word `help`: nothing, or one command to explain. -/
def helpOn : List String → Halt
  | [] => .help
  | [topic] => if topic ∈ commandNames then .help else .unknownCommand topic
  | topic :: word :: _ => .unknownCommand (if topic ∈ commandNames then word else topic)

/-- Reads the words from the one in place of a command on. -/
def ofCommand (r : Reading) (word : String) (words : List String) : Except Halt Invocation :=
  if r.literal then
    .error (if word ∈ commandNames then .unknownArgument word else .unknownCommand word)
  else match word with
    | "types" => do ofReading r.verbosity Reading.types (← Reading.takeWords .types words)
    | "size" => do ofReading r.verbosity Reading.size (← Reading.takeWords .size words)
    | "help" => .error (helpOn words)
    | _ => .error (.unknownCommand word)

/-- Reads the words that are left, given what the options so far have said. -/
def ofRest (r : Reading) : List String → Except Halt Invocation
  | [] => .error (if r.verbosity = 0 then .empty else .missingCommand)
  | word :: words =>
    match r.literal, Word.ofString word with
    | true, _ | false, .plain _ => ofCommand r word words
    | false, _ => do ofRest (← r.takeWord .program word) words

/-- Reads a command line. -/
def ofWords (words : List String) : Except Halt Invocation := ofRest {} words

end Invocation

end TypeLattice.Cli
