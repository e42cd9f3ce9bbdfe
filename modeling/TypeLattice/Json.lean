import TypeLattice.Text.Basic

/-!
# JSON text

A JSON value with its members in order, and its text in two styles that differ only in
blanks: `compact` puts everything on one line, `pretty` puts every item on a line of its
own, two spaces further in than its container. Both are one printer, `print`, with another
`Style`.
-/
namespace TypeLattice

/-- A JSON value whose numbers are natural. Members keep their order. -/
inductive Json where
  | null
  | bool (value : Bool)
  | number (value : Nat)
  | string (value : String)
  | array (items : List Json)
  | object (members : List (String × Json))
  deriving Repr

namespace Json

/-! ## Strings -/

/-- The letter that stands for a character after a backslash, where there is one. -/
def escapeLetter? : Char → Option Char
  | '\x22' => some '\x22'
  | '\\' => some '\\'
  | '\x08' => some 'b'
  | '\t' => some 't'
  | '\n' => some 'n'
  | '\x0C' => some 'f'
  | '\r' => some 'r'
  | _ => none

/-- The written form of a character in a string. Below U+0020 a character without a letter
is written by its number; from there on every other character stands for itself. -/
def escape (c : Char) : List Char :=
  match escapeLetter? c with
  | some letter => ['\\', letter]
  | none =>
    if c.toNat < 0x20 then
      ['\\', 'u', '0', '0', Nat.digitChar (c.toNat / 16), Nat.digitChar (c.toNat % 16)]
    else [c]

/-- The written form of a string. -/
def quote (s : String) : List Char := '\x22' :: (s.toList.flatMap escape ++ ['\x22'])

/-! ## Values -/

/-- The blanks between the tokens of a text. -/
structure Style where
  /-- What separates a bracket or a comma from an item at a depth. -/
  lineBreak : Nat → List Char
  /-- What separates a colon from a value. -/
  afterColon : List Char

/-- No blanks at all. -/
def Style.compact : Style := ⟨fun _ => [], []⟩

/-- A line for every item, indented by two spaces for each level of depth. -/
def Style.pretty : Style := ⟨fun depth => '\n' :: List.replicate (2 * depth) ' ', [' ']⟩

mutual

/-- The text of a value that stands at a depth. An empty container is closed at once. -/
def print (style : Style) (depth : Nat) : Json → List Char
  | null => "null".toList
  | bool value => (render value).toList
  | number value => (render value).toList
  | string value => quote value
  | array [] => ['[', ']']
  | array (item :: items) =>
    '[' :: (style.lineBreak (depth + 1) ++ print style (depth + 1) item ++
      printItems style (depth + 1) items ++ style.lineBreak depth ++ [']'])
  | object [] => ['\x7b', '\x7d']
  | object ((key, value) :: members) =>
    '\x7b' :: (style.lineBreak (depth + 1) ++ quote key ++ ':' :: style.afterColon ++
      print style (depth + 1) value ++ printMembers style (depth + 1) members ++
      style.lineBreak depth ++ ['\x7d'])

/-- The text of the items after the first. -/
def printItems (style : Style) (depth : Nat) : List Json → List Char
  | [] => []
  | item :: items =>
    ',' :: (style.lineBreak depth ++ print style depth item ++ printItems style depth items)

/-- The text of the members after the first. -/
def printMembers (style : Style) (depth : Nat) : List (String × Json) → List Char
  | [] => []
  | (key, value) :: members =>
    ',' :: (style.lineBreak depth ++ quote key ++ ':' :: style.afterColon ++
      print style depth value ++ printMembers style depth members)

end

/-- The text on one line. -/
def compact (v : Json) : String := String.ofList (print .compact 0 v)

/-- The text with a line for every item. -/
def pretty (v : Json) : String := String.ofList (print .pretty 0 v)

end Json

end TypeLattice
