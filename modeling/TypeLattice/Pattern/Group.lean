import TypeLattice.Pattern.Cursor
import TypeLattice.Text.Alphabetic
import TypeLattice.Text.CodePoints

/-!
# The beginnings of groups

A parenthesis opens a group, which may have a name or a mode of its own. Without more to the
group, the mode is turned on for what follows instead.
-/
namespace TypeLattice.Pattern

/-- The name of a group, and where it stands. -/
structure GroupName where
  letters : List Char
  start : Nat
  stop : Nat
  deriving DecidableEq, Repr

/-- What a parenthesis begins. -/
inductive Opening where
  /-- A group that is noted when it is found, perhaps under a name. -/
  | noted (name : Option GroupName)
  /-- A group that only holds its parts together. -/
  | plain (m : Mode)
  | turn (m : Mode)
  deriving DecidableEq, Repr

namespace Opening

/-- Whether the name of a group may hold the character, at its front or later. -/
def isNameLetter (first : Bool) (c : Char) : Bool :=
  c = '_' || Text.isAlphabetic c ||
    (!first && (Text.isNumeric c || c = '.' || c = '[' || c = ']'))

/-- How many characters of a name come before its end or the first character that it may not
hold. -/
def nameLength : Bool → List Char → Nat
  | _, [] => 0
  | first, c :: s => if c ≠ '>' ∧ isNameLetter first c then nameLength false s + 1 else 0

/-- Reads the name of a group up to its closing bracket. It is none of the earlier names. -/
def readName (earlier : List GroupName) (start : Cursor) :
    Except PatternError (Opening × Cursor) :=
  let length := nameLength true start.rest
  let stop := start.forward length
  let name : GroupName := ⟨start.rest.take length, start.position, stop.position⟩
  match stop.peek? with
  | none => stop.flawedBefore .groupNameUnclosed
  | some '>' =>
    if length = 0 then start.flawedBefore .groupNameEmpty
    else
      match earlier.find? fun n => n.letters = name.letters with
      | some same =>
        .error (.flawed .groupNameRepeated [⟨same.start, same.stop⟩, ⟨name.start, name.stop⟩])
      | none => .ok (.noted (some name), stop.next)
  | some _ => stop.flawedHere .groupNameInvalid

/-- An error at a sign that stands where it stood before. -/
def repeatedSign (flaw : PatternFlaw) (sign : Char) (seen : List (Char × Nat)) (n : Nat) :
    Except PatternError Unit :=
  match seen.lookup sign with
  | some before => .error (.flawed flaw [⟨before, before + 1⟩, ⟨n, n + 1⟩])
  | none => .ok ()

/-- Reads the letters of modes up to a colon or the end of the parenthesis. A hyphen turns
off what follows it. -/
def readModes (m : Mode) (seen : List (Char × Nat)) (n : Nat) :
    List Char → Except PatternError (Mode × List (Char × Nat) × Cursor)
  | [] => flawed .flagsUnfinished n n
  | c :: s =>
    if c = ':' ∨ c = ')' then
      match seen with
      | ('-', before) :: _ => flawed .negationDangling before (before + 1)
      | _ => .ok (m, seen, ⟨n, c :: s⟩)
    else if c = '-' then do
      repeatedSign .negationRepeated c seen n
      readModes m ((c, n) :: seen) (n + 1) s
    else
      match m.turn c (seen.lookup '-').isNone with
      | none => flawed .flagUnknown n (n + 1)
      | some turned => do
        repeatedSign .flagRepeated c seen n
        readModes turned ((c, n) :: seen) (n + 1) s

/-- Reads the beginning of a group, from its parenthesis on. -/
def read (m : Mode) (earlier : List GroupName) (start : Cursor) :
    Except PatternError (Opening × Cursor) :=
  let inner := start.next.skip m
  match ["?=", "?!", "?<=", "?<!"].findSome? inner.after? with
  | some stop => flawed .lookAround start.position stop.position
  | none =>
    match ["?P<", "?<"].findSome? inner.after?, inner.after? "?" with
    | some name, _ => readName earlier name
    | none, none => .ok (.noted none, inner)
    | none, some letters =>
      if letters.peek? = none then start.flawedHere .groupUnclosed
      else do
        let (turned, seen, stop) ← readModes m [] letters.position letters.rest
        if stop.peek? = some ':' then return (.plain turned, stop.next)
        else if seen = [] then inner.flawedBefore .repetitionMissing
        else return (.turn turned, stop.next)

end Opening

end TypeLattice.Pattern
