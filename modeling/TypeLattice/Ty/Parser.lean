import TypeLattice.Text.Basic
import TypeLattice.Text.CodePoints
import TypeLattice.Ty.Basic

/-!
# Parsing type names

Type names are read back from their rendered form: the name of a scalar, `ptr<LABEL>` for a
builtin label, or `ptr<class NAME>`. Blanks around the whole text and around a label are
tolerated. A class name is taken verbatim, up to the last `>` of the text, so it may hold blanks
and further `>`; `class` has to follow `ptr<` at once and one space has to follow `class`.

`parsePointee` reads what stands between the brackets, `parseTrimmed` a text without
outer blanks, `parse` any text. Each refusal has its own `ParseError`.
-/
namespace TypeLattice

/-- The errors from parsing a type name. -/
inductive ParseError where
  /-- There is nothing but blanks. -/
  | empty
  /-- The text is neither a reference nor the name of a scalar. -/
  | unknownType (text : String)
  /-- The text begins as a reference and has no `>` at its end. -/
  | unterminatedReference (text : String)
  /-- What a reference points to is neither a class nor a label. -/
  | unknownLabel (text : String)
  /-- A reference to a class gives no name. -/
  | unnamedClass
  deriving DecidableEq, Repr

namespace ParseError

/-- The wording of the error. -/
def message : ParseError → String
  | empty => "empty type name"
  | unknownType text => "unknown type `" ++ text ++ "`"
  | unterminatedReference text =>
    "unterminated reference `" ++ text ++ "` (expected `ptr<...>`)"
  | unknownLabel text =>
    "unknown reference label `" ++ text ++ "` (use `class NAME` for user classes)"
  | unnamedClass => "class reference without a name"

/-- The text that the error is about. -/
def text? : ParseError → Option String
  | empty | unnamedClass => none
  | unknownType text | unterminatedReference text | unknownLabel text => some text

end ParseError

instance : Render ParseError := ⟨ParseError.message⟩

namespace Ty

/-- Parses the referent, which stands between `ptr<` and the last `>`. -/
def parsePointee (inner : List Char) : Except ParseError Pointee :=
  if inner = "class".toList then .error .unnamedClass
  else match Text.after? "class ".toList inner with
    | some name => .ok (.object ⟨String.ofList name⟩)
    | none =>
      let word := String.ofList (Text.trim inner)
      match Label.ofName? word with
      | some l => .ok (.label l)
      | none => .error (.unknownLabel word)

/-- Parses a type name that has no blanks at its ends. -/
def parseTrimmed (text : List Char) : Except ParseError (Ty Pointee) :=
  if text = [] then .error .empty
  else match Text.after? "ptr<".toList text with
    | some rest =>
      match Text.before? '>' rest with
      | some inner => (parsePointee inner).map .ref
      | none => .error (.unterminatedReference (String.ofList text))
    | none =>
      match Scalar.ofName? (String.ofList text) with
      | some s => .ok (.scalar s)
      | none => .error (.unknownType (String.ofList text))

/-- Parses a type name. Blanks around it are tolerated; of the rendering of a type it gives back
that type. -/
def parse (text : String) : Except ParseError (Ty Pointee) :=
  parseTrimmed (Text.trim text.toList)

end Ty

end TypeLattice
