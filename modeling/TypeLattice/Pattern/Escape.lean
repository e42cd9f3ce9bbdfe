import TypeLattice.Pattern.Cursor

/-!
# Escapes in a written pattern

A backslash gives the next characters another meaning: punctuation stands for itself, a
letter for a class, an edge, a control character, or a character by its number.
-/
namespace TypeLattice.Pattern

/-- The smallest parts of a written pattern. -/
inductive Atom where
  /-- A character, perhaps by its number of two digits. -/
  | char (c : Char) (twoDigits : Bool)
  | set (s : Meaning CharSet)
  | edge (e : Edge)

namespace Atom

/-- The value of a hexadecimal digit. -/
def hexDigit? (c : Char) : Option Nat :=
  if c.isDigit then some (c.toNat - '0'.toNat)
  else if 'a' ≤ c ∧ c ≤ 'f' then some (c.toNat - 'a'.toNat + 10)
  else if 'A' ≤ c ∧ c ≤ 'F' then some (c.toNat - 'A'.toNat + 10)
  else none

/-- The character with the number that the digits give. -/
def ofHex? (digits : List Char) : Option Char :=
  let n := (digits.filterMap hexDigit?).foldl (fun n d => 16 * n + d) 0
  if n.isValidChar then some (Char.ofNat n) else none

/-- Reads that many hexadecimal digits. -/
def readDigits (m : Mode) : Nat → Cursor → Except PatternError (List Char × Cursor)
  | 0, c => .ok ([], c)
  | n + 1, c =>
    match c.peek? with
    | none => c.flawedBefore .escapeUnfinished
    | some digit =>
      if (hexDigit? digit).isSome then do
        let (digits, stop) ← readDigits m n (c.next.skip m)
        return (digit :: digits, stop)
      else c.flawedHere .hexDigitInvalid

/-- Reads a character by its number, which has so many digits or stands in braces. -/
def readNumbered (m : Mode) (width : Nat) (start : Cursor) :
    Except PatternError (Atom × Cursor) :=
  if start.peek? = some '\x7B' then
    let (digits, close) := start.next.collect m fun c => (hexDigit? c).isSome
    if close.peek? = none then flawed .escapeUnfinished start.position close.position
    else if close.peek? ≠ some '\x7D' then close.flawedHere .hexDigitInvalid
    else
      let stop := close.next.skip m
      if digits = [] then flawed .hexEmpty start.position stop.position
      else
        match ofHex? digits with
        | some c => .ok (.char c false, stop)
        | none => flawed .hexNoCharacter start.next.position close.position
  else do
    let (digits, stop) ← readDigits m width start
    match ofHex? digits with
    | some c => return (.char c (width = 2), stop)
    | none => flawed .hexNoCharacter start.position stop.position

/-- The ASCII characters that make up the name of a property. Capitals, blanks, hyphens, low
lines and the word "is" at the front make no difference. -/
def propertyName (name : List Char) : List Char :=
  let rest := if (name.take 2).map Char.toLower = ['i', 's'] then name.drop 2 else name
  (rest.filter fun c => c.toNat < 0x80 && !" _-".contains c).map Char.toLower

/-- What a class by property stands for, with its place in the text. No property is known. A
few names can only be values of a property that is not named. -/
def property (m : Mode) (name : List Char) (start stop : Nat) : Meaning CharSet :=
  if ¬m.wide then flawed .wideNotAllowed start stop
  else if ¬name.any (":=".contains ·) ∧
      propertyName name ∈ [['c', 'f'], ['s', 'c'], ['l', 'c']] then
    flawed .propertyValueUnknown start stop
  else flawed .propertyUnknown start stop

/-- Reads the name of a property, in braces or of one letter. -/
def readProperty (m : Mode) (start name : Cursor) : Except PatternError (Atom × Cursor) :=
  let answer (letters : List Char) (stop : Cursor) : Atom × Cursor :=
    (.set (property m letters start.position stop.position), stop)
  match name.peek? with
  | none => name.flawedBefore .escapeUnfinished
  | some '\\' => name.flawedHere .propertyInvalid
  | some '\x7B' =>
    let (letters, close) := name.next.collect m (· ≠ '\x7D')
    if close.peek? = none then close.flawedBefore .escapeUnfinished
    else .ok (answer letters close.next)
  | some letter => .ok (answer [letter] (name.next.skip m))

/-- The edges by the names that may follow in braces. -/
def namedEdges : List (String × Edge) :=
  [("start", .wordStart), ("end", .wordStop), ("start-half", .noWordBefore),
    ("end-half", .noWordAfter)]

/-- Reads what follows the escape for the edge of a word: perhaps a name in braces. Braces
that begin otherwise are left to be read as a repetition. -/
def readWordEdge (m : Mode) (start brace : Cursor) : Except PatternError (Atom × Cursor) :=
  let isNameLetter (c : Char) : Bool := c.isAlpha || c = '-'
  if brace.peek? ≠ some '\x7B' then .ok (.edge (m.wordEdge .wordEdge), brace)
  else
    let name := brace.next.skip m
    match name.peek? with
    | none => flawed .wordEdgeUnfinished start.position name.position
    | some c =>
      if ¬isNameLetter c then .ok (.edge (m.wordEdge .wordEdge), brace)
      else
        let (letters, close) := name.collect m isNameLetter
        if close.peek? ≠ some '\x7D' then
          flawed .wordEdgeUnclosed brace.position close.position
        else
          match namedEdges.find? fun (n, _) => n.toList = letters with
          | some (_, e) => .ok (.edge (m.wordEdge e), close.next)
          | none => flawed .wordEdgeUnknown name.position close.position

/-- The control characters that a letter stands for. -/
def controls : List (Char × Char) :=
  [('a', '\x07'), ('f', '\x0C'), ('t', '\t'), ('n', '\n'), ('r', '\r'), ('v', '\x0B')]

/-- The edges that a sign stands for. -/
def edges (m : Mode) : List (Char × Edge) :=
  [('A', .textStart), ('z', .textStop), ('B', m.wordEdge .noWordEdge),
    ('<', m.wordEdge .wordStart), ('>', m.wordEdge .wordStop)]

/-- Whether the character stands for itself after a backslash: ASCII other than letters,
digits and angle brackets. -/
def isPlainEscaped (c : Char) : Bool :=
  c.toNat < 0x80 && !c.isAlphanum && c ≠ '<' && c ≠ '>'

/-- Reads an escape, from its backslash on. -/
def readEscape (m : Mode) (start : Cursor) : Except PatternError (Atom × Cursor) :=
  let letter := start.next
  match letter.peek? with
  | none => flawed .escapeUnfinished start.position letter.position
  | some c =>
    let stop := letter.next
    if c.isDigit then flawed .backreference start.position stop.position
    else if isPlainEscaped c then .ok (.char c false, stop)
    else
      match c with
      | 'x' => readNumbered m 2 (stop.skip m)
      | 'u' => readNumbered m 4 (stop.skip m)
      | 'U' => readNumbered m 8 (stop.skip m)
      | 'p' | 'P' => readProperty m start (stop.skip m)
      | 'b' => readWordEdge m start stop
      | _ =>
        match m.class? c start.position stop.position, controls.lookup c, (edges m).lookup c with
        | some s, _, _ => .ok (.set s, stop)
        | none, some control, _ => .ok (.char control false, stop)
        | none, none, some e => .ok (.edge e, stop)
        | none, none, none => flawed .escapeUnknown start.position stop.position

end Atom

end TypeLattice.Pattern
