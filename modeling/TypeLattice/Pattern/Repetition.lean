import TypeLattice.Pattern.Cursor

/-!
# Repetitions in a written pattern

A sign or numbers in braces after a part of a pattern say how often it is repeated. A question
mark after them changes only which part of a text is preferred.
-/
namespace TypeLattice.Pattern

/-- How often a part is repeated. -/
structure Repetition where
  least : Nat
  most : Option Nat
  deriving DecidableEq, Repr

namespace Repetition

/-- The repetition that a sign stands for. -/
def ofSign? : Char → Option Repetition
  | '?' => some ⟨0, some 1⟩
  | '*' => some ⟨0, none⟩
  | '+' => some ⟨1, none⟩
  | _ => none

/-- The largest number in braces. -/
def limit : Nat := 4294967295

/-- Reads a number, which may have blanks around it. -/
def readNumber (m : Mode) (c : Cursor) : Except PatternError Nat × Cursor :=
  let (_, start) := c.collect { m with spaced := false } Text.isBlank
  let (digits, stop) := start.collect m Char.isDigit
  let n := digits.foldl (fun n d => 10 * n + (d.toNat - '0'.toNat)) 0
  let value :=
    if digits = [] then flawed .repetitionCountMissing start.position stop.position
    else if limit < n then flawed .numberTooLarge start.position stop.position
    else .ok n
  (value, (stop.collect m Text.isBlank).2)

/-- The place after a question mark, if it comes next. -/
def passPreference (c : Cursor) : Cursor := if c.peek? = some '?' then c.next else c

/-- An error at a place before which the braces had to be closed. -/
def unclosed {α : Type} (start place : Cursor) : Except PatternError α :=
  flawed .repetitionUnclosed start.position place.position

/-- Reads the numbers between the braces, of which the first one begins at the start. -/
def readCounts (m : Mode) (start inner : Cursor) : Except PatternError (Repetition × Cursor) :=
  let (first, place) := readNumber m inner
  let later := place.next.skip m
  if place.peek? = none then unclosed start place
  else if place.peek? ≠ some ',' then first.map fun n => (⟨n, some n⟩, place)
  else if later.peek? = none then unclosed start later
  else if later.peek? = some '\x7D' then first.map fun n => (⟨n, none⟩, later)
  else do
    let n ← first
    let (last, close) := readNumber m later
    return (⟨n, some (← last)⟩, close)

/-- Reads numbers in braces, from the opening brace on. -/
def read (m : Mode) (start : Cursor) : Except PatternError (Repetition × Cursor) :=
  let inner := start.next.skip m
  if inner.peek? = none then unclosed start inner
  else do
    let (repetition, close) ← readCounts m start inner
    let stop := passPreference (close.next.skip m)
    if close.peek? ≠ some '\x7D' then unclosed start close
    else if repetition.most.any (· < repetition.least) then
      flawed .repetitionCountReversed start.position stop.position
    else return (repetition, stop)

end Repetition

end TypeLattice.Pattern
