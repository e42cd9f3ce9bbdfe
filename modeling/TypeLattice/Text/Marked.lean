/-!
# Texts with marks

`marked` shows a text line by line, with marks under the parts of it that are meant. A text
of several lines has their numbers in front; parts that go from one line to another have no
marks there, and `crossings` says where they are.
-/
namespace TypeLattice.Text

/-- A part of a text, from its first character to behind its last. -/
structure Span where
  start : Nat
  stop : Nat
  deriving DecidableEq, Repr

/-- A place in a text: how many lines come before, and how many characters on its line. -/
structure Place where
  line : Nat
  column : Nat
  deriving DecidableEq, Repr

/-- The place behind one character. -/
def Place.next (p : Place) (c : Char) : Place :=
  if c = '\n' then ⟨p.line + 1, 0⟩ else ⟨p.line, p.column + 1⟩

/-- The place behind so many characters of the text. -/
def placeAfter (n : Nat) (s : List Char) : Place := (s.take n).foldl Place.next ⟨0, 0⟩

/-- The places where a part starts and stops. -/
def Span.places (s : List Char) (part : Span) : Place × Place :=
  (placeAfter part.start s, placeAfter part.stop s)

/-- The lines of a text. A line ends with a line feed or a return and a line feed, and what
comes behind the last end is a line only if there is something. -/
def lines (s : List Char) : List (List Char) :=
  let parts := s.splitOn '\n'
  let withoutReturn (line : List Char) : List Char :=
    if line.getLast? = some '\r' then line.dropLast else line
  parts.dropLast.map withoutReturn ++ parts.getLast?.toList.filter (· ≠ [])

/-- Marks under parts of a line, from the given column on. A part without characters has one
mark. -/
def marks : Nat → List Span → List Char
  | _, [] => []
  | column, part :: parts =>
    let width := max 1 (part.stop - part.start)
    List.replicate (part.start - column) ' ' ++ List.replicate width '^' ++
      marks (max column part.start + width) parts

/-- The parts within the line of that number, as parts of the line. -/
def partsOfLine (s : List Char) (parts : List Span) (line : Nat) : List Span :=
  (parts.map (Span.places s)).filterMap fun (start, stop) =>
    if start.line = line ∧ stop.line = line then some ⟨start.column, stop.column⟩ else none

/-- What stands in front of the line of that number. -/
def margin (s : List Char) (line : Nat) : List Char :=
  let count := (s.splitOn '\n').length
  if count = 1 then List.replicate 4 ' '
  else (toString (line + 1)).toList.leftpad (toString count).length ' ' ++ [':', ' ']

/-- The text line by line, with marks under parts of it. The parts are in ascending order. -/
def marked (s : List Char) (parts : List Span) : String :=
  String.ofList <| (lines s).zipIdx.flatMap fun (line, n) =>
    margin s n ++ line ++ ['\n'] ++
      match partsOfLine s parts n with
      | [] => []
      | here => List.replicate (margin s n).length ' ' ++ marks 0 here ++ ['\n']

/-- Where the parts are that go from one line to another. -/
def crossings (s : List Char) (parts : List Span) : String :=
  let sentence (start stop : Place) : String :=
    "on line " ++ toString (start.line + 1) ++ " (column " ++ toString (start.column + 1) ++
      ") through line " ++ toString (stop.line + 1) ++ " (column " ++ toString stop.column ++
      ")\n"
  String.join <| (parts.map (Span.places s)).filterMap fun (start, stop) =>
    if start.line = stop.line then none else some (sentence start stop)

end TypeLattice.Text
