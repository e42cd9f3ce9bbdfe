import TypeLattice.Cli.Invocation
import TypeLattice.Log.Setting
import TypeLattice.Table.Lattice
import TypeLattice.Table.Measurement
import TypeLattice.Table.Row
import TypeLattice.Text.Quoted

/-!
# Running a command

`Command.run` is what a command does: an exit status, the text for standard output, the
records it logs, and the error line if it fails. It knows nothing of what is set for the
log; the setting only decides which records are shown (`Outcome.errorText`), so it changes
neither status nor output.

`respond` goes from a command line to the answer, or says why it is not carried out;
`exitStatus` is the status in both cases.
-/
namespace TypeLattice.Cli

/-- What a command did. -/
structure Outcome where
  status : Nat
  /-- The text for standard output. -/
  output : String
  /-- All records, shown or not. -/
  records : List Log.Record
  /-- The last line for standard error. -/
  complaint : Option String
  deriving DecidableEq, Repr

namespace Outcome

/-- The status of a command that was given a name that is no type. -/
def failed : Nat := 1

/-- The status of a command whose table cannot be laid out. -/
def aborted : Nat := 101

/-- The outcome of a command that ends with a table. -/
def ofTable (records : List Log.Record) : Except Text.LayoutError String → Outcome
  | .ok table => ⟨0, table, records, none⟩
  | .error e => ⟨aborted, "", records, some e.message⟩

/-- The outcome of a command that ends with the rows as JSON. -/
def ofJson (records : List Log.Record) (rows : List Row) : Outcome :=
  ⟨0, (Row.listToJson rows).pretty ++ "\n", records, none⟩

/-- The text for standard error: the log, then the complaint. -/
def errorText (setting : Log.Setting) (o : Outcome) : String :=
  setting.text o.records ++
    match o.complaint with
    | some line => line ++ "\n"
    | none => ""

end Outcome

/-- The record of a list of the lattice entries as JSON. -/
def TypesCommand.record (rows : List Row) : Log.Record :=
  ⟨.debug, "cfgir::commands::types",
    "listing " ++ render rows.length ++ " lattice entries as JSON"⟩

/-- The configuration of the dump that the command asks for. -/
def TypesCommand.view (terminal : Bool) (c : TypesCommand) : View :=
  ⟨c.scalars, c.references, .ofColored (c.colored terminal)⟩

/-- Lists the type lattice: the lattice entries as JSON, or the dump. -/
def TypesCommand.run (terminal : Bool) (c : TypesCommand) : Outcome :=
  let view := c.view terminal
  if c.json then .ofJson [record view.rows] view.rows
  else .ofTable [] view.text

/-- The record of a name that was parsed as a type. -/
def SizeCommand.record (name : String) (t : Ty Pointee) : Log.Record :=
  ⟨.debug, "cfgir::commands::size",
    Text.quotedString name ++ " parsed as " ++ render t ++ " (" ++ render t.byteSize ++ " bytes)"⟩

/-- Parses type names and prints their sizes. If one name is not a lattice type, nothing is
printed but the error. -/
def SizeCommand.run (c : SizeCommand) : Outcome :=
  let measurement := Measurement.ofNames c.names
  let records := measurement.read.map fun (name, t) => record name t
  match measurement.rows with
  | .error e => ⟨Outcome.failed, "", records, some ("error: " ++ e.message)⟩
  | .ok rows => if c.json then .ofJson records rows else .ofTable records (sizeTable rows)

/-- Carries out a command. -/
def Command.run (terminal : Bool) : Command → Outcome
  | .types c => c.run terminal
  | .size c => c.run

/-- The answer of the program. -/
structure Response where
  status : Nat
  output : String
  errorOutput : String
  deriving DecidableEq, Repr

/-- The log level of an invocation: the one set for the program if there is any, and otherwise
that of the verbosity. -/
def Invocation.setting (outer : Option Log.Setting) (i : Invocation) : Log.Setting :=
  outer.getD (.ofThreshold (.ofVerbosity i.verbosity))

/-- The answer to a command line, where standard output may be a terminal. -/
def respond (outer : Option Log.Setting) (terminal : Bool) (words : List String) :
    Except Halt Response := do
  let i ← Invocation.ofWords words
  let outcome := i.command.run terminal
  return ⟨outcome.status, outcome.output, outcome.errorText (i.setting outer)⟩

/-- The status that the program exits with. -/
def exitStatus : Except Halt Response → Nat
  | .ok response => response.status
  | .error halt => halt.status

end TypeLattice.Cli
