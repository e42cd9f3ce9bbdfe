import TypeLattice.Cli.Halt
import TypeLattice.Cli.Word

/-!
# Reading the words of a command

The words are read from left to right; `Reading` is what they have said so far, and the
first word that breaks a rule decides. A word after `--color` is its value, but it is only
looked at when the next option that the command knows is read, or at the end: until then it
is pending. An option that the command does not know, or that has a value it does not
take, is refused before that.
-/
namespace TypeLattice.Cli

/-- Where on the command line a word stands: before the command or after one. -/
inductive Scope where
  | program
  | types
  | size
  deriving DecidableEq, Repr

/-- Whether the option is known there. Help and verbosity are known everywhere. -/
def Scope.knows : Scope → Switch → Bool
  | _, .verbose | _, .help => true
  | .program, _ => false
  | .types, _ => true
  | .size, option => option = .json

/-- The value of a `--color` that has not been looked at yet. -/
inductive Pending where
  /-- There is no such option. -/
  | nothing
  /-- The option has been read and no value. -/
  | awaited
  | given (value : String)
  deriving DecidableEq, Repr

/-- What the words have said so far. -/
structure Reading where
  /-- How often more log records were asked for, at most 255 times. -/
  verbosity : Nat := 0
  json : Bool := false
  onlyScalars : Bool := false
  onlyReferences : Bool := false
  color : Option ColorWhen := none
  pending : Pending := .nothing
  names : List String := []
  /-- Whether a separator was read. -/
  literal : Bool := false
  deriving DecidableEq, Repr

namespace Reading

/-- The largest verbosity. -/
def mostVerbose : Nat := 255

/-- Looks at the pending value of `--color`. -/
def settle (r : Reading) : Except Halt Reading :=
  match r.pending with
  | .nothing => .ok r
  | .awaited => .error (.invalidColor none)
  | .given value =>
    if r.color.isSome then .error (.repeated .color)
    else match ColorWhen.ofName? value with
      | some w => .ok { r with color := some w, pending := .nothing }
      | none => .error (.invalidColor (some value))

/-- Takes an option without a value. -/
def takeSwitch (r : Reading) : Switch → Except Halt Reading
  | .verbose => .ok { r with verbosity := min mostVerbose (r.verbosity + 1) }
  | .help => .error .help
  | .json => if r.json then .error (.repeated .json) else .ok { r with json := true }
  | .scalars =>
    if r.onlyScalars then .error (.repeated .scalars) else .ok { r with onlyScalars := true }
  | .references =>
    if r.onlyReferences then .error (.repeated .references)
    else .ok { r with onlyReferences := true }
  | .color => .ok { r with pending := .awaited }

/-- Takes a known option by its long name. -/
def takeLong (r : Reading) : Switch → Option String → Except Halt Reading
  | option, none => do (← r.settle).takeSwitch option
  | .color, some value => do settle { ← r.settle with pending := .given value }
  | option, some _ => .error (.unexpectedValue option)

/-- Takes an option by its letter. -/
def takeLetter (scope : Scope) (r : Reading) (c : Char) : Except Halt Reading :=
  match (Switch.ofLetter? c).filter scope.knows with
  | some option => do (← r.settle).takeSwitch option
  | none => .error (.unknownArgument (String.ofList ['-', c]))

/-- Takes a word that stands for itself. Only `size` takes such words. -/
def takeItself (scope : Scope) (r : Reading) (word : String) : Except Halt Reading :=
  match scope with
  | .size => .ok { r with names := r.names ++ [word] }
  | _ => .error (.unknownArgument word)

/-- Takes a plain word: the awaited value of `--color`, or a word that stands for itself. -/
def takePlain (scope : Scope) (r : Reading) (word : String) : Except Halt Reading :=
  match r.pending with
  | .awaited => .ok { r with pending := .given word }
  | _ => r.takeItself scope word

/-- Takes the next word. -/
def takeWord (scope : Scope) (r : Reading) (word : String) : Except Halt Reading :=
  if r.literal then r.takeItself scope word
  else match Word.ofString word with
    | .separator => .ok { r with literal := true }
    | .long name value =>
      match (Switch.ofName? name).filter scope.knows with
      | some option => r.takeLong option value
      | none => .error (.unknownArgument word)
    | .cluster letters => letters.foldlM (takeLetter scope) r
    | .plain word => r.takePlain scope word

/-- Takes all words of a command. -/
def takeWords (scope : Scope) (ws : List String) : Except Halt Reading := do
  (← ws.foldlM (takeWord scope) {}).settle

end Reading

end TypeLattice.Cli
