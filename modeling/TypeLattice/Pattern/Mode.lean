import TypeLattice.Pattern.Basic
import TypeLattice.Pattern.Error

/-!
# How a pattern is read

Letters within a written pattern turn a `Mode` on and off, from there to the end of the group.
The mode decides what a character, a point, a line end or a class of characters stands for.

In the wide mode characters and classes are those of all scripts. Of these it is not known
which are letters or differ in case only. Otherwise they are those of ASCII, and a set must not
hold single bytes of another character.
-/
namespace TypeLattice.Pattern

/-- How a pattern is read. -/
structure Mode where
  /-- Characters stand for all that differ from them in case. -/
  anyCase : Bool := false
  /-- Line ends are edges of a text. -/
  lines : Bool := false
  /-- A point stands for a line end too. -/
  pointIsAll : Bool := false
  /-- A return ends a line as well. -/
  returns : Bool := false
  /-- Sets, classes and edges of words reach beyond ASCII. -/
  wide : Bool := true
  /-- Blanks and comments stand for nothing. -/
  spaced : Bool := false
  deriving DecidableEq, Repr

namespace Mode

/-- The mode with what a letter stands for turned on or off. One of the letters changes only
which part of a text is preferred, and so nothing here. -/
def turn (letter : Char) (on : Bool) (m : Mode) : Option Mode :=
  match letter with
  | 'i' => some { m with anyCase := on }
  | 'm' => some { m with lines := on }
  | 's' => some { m with pointIsAll := on }
  | 'R' => some { m with returns := on }
  | 'u' => some { m with wide := on }
  | 'x' => some { m with spaced := on }
  | 'U' => some m
  | _ => none

/-- What a set of characters stands for, with its place in the text. -/
def set (s : CharSet) (start stop : Nat) (m : Mode) : Meaning CharSet :=
  if ¬m.anyCase then .ok s
  else if m.wide then flawed .caseUnknown start stop
  else .ok (.anyCase s)

/-- What all characters but some stand for, with their place in the text. -/
def others (s : CharSet) (start stop : Nat) (m : Mode) : Meaning CharSet :=
  if m.wide then .ok (.compl s) else flawed .encodingInvalid start stop

/-- What a character stands for, with its place in the text. Two digits may give a single byte
of another character. -/
def char (c : Char) (twoDigits : Bool) (start stop : Nat) (m : Mode) : Meaning CharSet :=
  if ¬m.wide ∧ twoDigits ∧ 0x80 ≤ c.toNat then flawed .encodingInvalid start stop
  else m.set (.single c) start stop

/-- What a character in a set stands for, with its place in the text. -/
def member (c : Char) (twoDigits : Bool) (start stop : Nat) (m : Mode) : Meaning Char :=
  if m.wide ∨ c.toNat < 0x80 then .ok c
  else if twoDigits then flawed .encodingInvalid start stop
  else flawed .wideNotAllowed start stop

/-- What a point stands for, with its place in the text. -/
def point (start stop : Nat) (m : Mode) : Meaning CharSet :=
  m.others
    (if m.pointIsAll then .empty
    else if m.returns then .ofRanges [('\n', '\n'), ('\r', '\r')]
    else .single '\n')
    start stop

/-- What the class of a letter stands for, with its place in the text. A capital stands for
all other characters. -/
def class? (letter : Char) (start stop : Nat) (m : Mode) : Option (Meaning CharSet) :=
  let named (s : CharSet) : Meaning CharSet :=
    if m.wide then flawed .classUnknown start stop
    else if letter.isUpper then m.others s start stop
    else .ok s
  match letter.toLower with
  | 'd' => some (named .digits)
  | 's' => some (named .blanks)
  | 'w' => some (named .word)
  | _ => none

/-- The edge at the start. -/
def start (m : Mode) : Edge :=
  if ¬m.lines then .textStart else if m.returns then .returnLineStart else .lineStart

/-- The edge at the end. -/
def stop (m : Mode) : Edge :=
  if ¬m.lines then .textStop else if m.returns then .returnLineStop else .lineStop

/-- An edge of words. -/
def wordEdge (e : Edge) (m : Mode) : Edge := if m.wide then .wideWordEdge else e

end Mode

end TypeLattice.Pattern
