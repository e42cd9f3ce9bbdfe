import TypeLattice.Pattern.Mode
import TypeLattice.Text.Basic
import TypeLattice.Text.CodePoints

/-!
# Reading a written pattern

A `Cursor` is what has still to be read of a text, and how much has been read. `collect`
reads characters of one kind, and `skip` what stands for nothing: where a pattern is read
with blanks, these are blanks and the comments from `#` to the end of a line.
-/
namespace TypeLattice.Pattern

/-- A place in a written pattern. -/
structure Cursor where
  position : Nat
  rest : List Char
  deriving DecidableEq, Repr

namespace Cursor

/-- The character to be read next. -/
def peek? (c : Cursor) : Option Char := c.rest.head?

/-- The place after one character. -/
def next (c : Cursor) : Cursor := ⟨c.position + 1, c.rest.tail⟩

/-- The place so many characters later. -/
def forward (n : Nat) (c : Cursor) : Cursor := ⟨c.position + n, c.rest.drop n⟩

/-- The place after the given text, if it comes next. -/
def after? (part : String) (c : Cursor) : Option Cursor :=
  (Text.after? part.toList c.rest).map (⟨c.position + part.length, ·⟩)

/-- An error at the next character. -/
def flawedHere {α : Type} (flaw : PatternFlaw) (c : Cursor) : Except PatternError α :=
  flawed flaw c.position (c.position + 1)

/-- An error at the place itself, before the next character. -/
def flawedBefore {α : Type} (flaw : PatternFlaw) (c : Cursor) : Except PatternError α :=
  flawed flaw c.position c.position

/-- Reads characters of one kind from a list, together with the blanks and comments among
them if there are any. -/
def collectFrom (isMember : Char → Bool) (spaced : Bool) : Bool → Nat → List Char →
    List Char × Cursor
  | _, n, [] => ([], ⟨n, []⟩)
  | true, n, c :: s => collectFrom isMember spaced (c ≠ '\n') (n + 1) s
  | false, n, c :: s =>
    if spaced && (Text.isBlank c || c = '#') then
      collectFrom isMember spaced (c = '#') (n + 1) s
    else if isMember c then
      let (cs, stop) := collectFrom isMember spaced false (n + 1) s
      (c :: cs, stop)
    else ([], ⟨n, c :: s⟩)

/-- Reads characters of one kind. -/
def collect (m : Mode) (isMember : Char → Bool) (c : Cursor) : List Char × Cursor :=
  collectFrom isMember m.spaced false c.position c.rest

/-- The place after what stands for nothing. -/
def skip (m : Mode) (c : Cursor) : Cursor := (c.collect m fun _ => false).2

/-- The character after the next one. Where blanks stand for nothing, these and one sign of a
comment are passed over, but no more of the comment. -/
def peekBeyond? (m : Mode) (c : Cursor) : Option Char :=
  let later := c.rest.tail
  if ¬m.spaced then later.head?
  else
    match later.dropWhile Text.isBlank with
    | '#' :: comment => (comment.dropWhile Text.isBlank).head?
    | inked => inked.head?

end Cursor

end TypeLattice.Pattern
