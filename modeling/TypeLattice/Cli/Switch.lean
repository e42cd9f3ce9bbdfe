/-!
# Options

`Switch` are the options under their long names and letters, `ColorWhen` the values that
`--color` takes.
-/
namespace TypeLattice.Cli

/-- An option. -/
inductive Switch where
  /-- The log verbosity, for every command; the only option that may be repeated. -/
  | verbose
  /-- Asks for help. -/
  | help
  /-- Print rows as JSON. -/
  | json
  /-- Show only scalar kinds. -/
  | scalars
  /-- Show only builtin references. -/
  | references
  /-- When to colour output: takes one of the names of `ColorWhen`. -/
  | color
  deriving DecidableEq, Repr

namespace Switch

/-- The options in the order in which they are explained. -/
def all : List Switch := [.verbose, .help, .json, .scalars, .references, .color]

/-- The long name of the option. -/
def name : Switch → String
  | .verbose => "verbose"
  | .help => "help"
  | .json => "json"
  | .scalars => "scalars"
  | .references => "references"
  | .color => "color"

/-- The option of that long name; names are not abbreviated. -/
def ofName? (text : String) : Option Switch := all.find? (·.name = text)

/-- The option of that letter. -/
def ofLetter? : Char → Option Switch
  | 'v' => some .verbose
  | 'h' => some .help
  | _ => none

theorem ofName?_name (s : Switch) : ofName? s.name = some s := by cases s <;> rfl

end Switch

/-- The colour choice: when output is coloured. -/
inductive ColorWhen where
  /-- When a terminal shows it. -/
  | auto
  | always
  | never
  deriving DecidableEq, Repr

namespace ColorWhen

/-- The choice of that name; capitals make another name. -/
def ofName? : String → Option ColorWhen
  | "auto" => some .auto
  | "always" => some .always
  | "never" => some .never
  | _ => none

/-- Whether the choice colours output, which may go to a terminal. -/
def colors (terminal : Bool) : ColorWhen → Bool
  | .auto => terminal
  | .always => true
  | .never => false

end ColorWhen

end TypeLattice.Cli
