import TypeLattice.Pattern.Bracket
import TypeLattice.Pattern.Group
import TypeLattice.Pattern.Repetition
import TypeLattice.Pattern.Size

/-!
# Reading patterns

`Pattern.ofText` reads a pattern as it is written: parts one after the other, alternatives
between bars, groups in parentheses. The text is read from left to right, and the first flaw
decides. Where all of it can be read, the first part without a known meaning decides, then the
room that the pattern takes, and last whether its edges of words are known.
-/
namespace TypeLattice.Pattern

/-- A part of a written pattern. -/
structure Part where
  /-- Where the part begins. -/
  start : Nat
  /-- What the part stands for. A change of mode stands for nothing. -/
  meaning : Option (Meaning Pattern)
  nesting : Nesting := []

namespace Part

/-- What parts in a row stand for. -/
def meanings (parts : List Part) : Meaning (List Pattern) :=
  (parts.filterMap (·.meaning)).mapM id

/-- The part repeated, up to the given place. -/
def repeated? (r : Repetition) (stop : Nat) (p : Part) : Option Part :=
  p.meaning.map fun meaning =>
    { p with
      meaning := some (meaning.map (times · r.least r.most))
      nesting := ⟨p.start, stop⟩ :: p.nesting }

end Part

/-- What has been read of a group, or of the whole pattern. -/
structure OpenGroup where
  /-- Where the group begins. -/
  start : Nat
  /-- Whether the group is noted when it is found. -/
  noted : Bool := false
  /-- The mode in which it is read on. -/
  mode : Mode
  /-- Where the first alternative begins. -/
  first : Nat
  /-- Where the current alternative begins. -/
  current : Nat := first
  /-- The alternatives before the current one, the last first. -/
  earlier : List Part := []
  /-- The parts of the current alternative, the last first. -/
  parts : List Part := []

namespace OpenGroup

/-- The current alternative, which ends at the place. -/
def alternative (stop : Nat) (o : OpenGroup) : Part :=
  let inner := Nesting.ofRow (o.parts.reverse.map (·.nesting))
  { start := o.current
    meaning := some do
      return (← Part.meanings o.parts.reverse).foldr (fun p q => before q p) empty
    nesting := if 1 < o.parts.length then ⟨o.current, stop⟩ :: inner else inner }

/-- What is in the group, which ends at the place. -/
def value (stop : Nat) (o : OpenGroup) : Meaning Pattern × Nesting :=
  let last := o.alternative stop
  let alternatives := o.earlier.reverse ++ [last]
  let inner := Nesting.ofRow (alternatives.map (·.nesting))
  (do
    let ps ← Part.meanings alternatives
    let p := ps.dropLast.foldr either (ps.getLast?.getD empty)
    return if o.noted then group p else p,
    if o.earlier.isEmpty then inner else ⟨o.first, stop⟩ :: inner)

/-- The group with one more part. -/
def add (p : Part) (o : OpenGroup) : OpenGroup := { o with parts := p :: o.parts }

/-- The group with a group in it as one more part, which ends with the parenthesis at the
place. -/
def addGroup (o inner : OpenGroup) (place : Nat) : OpenGroup :=
  let (meaning, nesting) := inner.value place
  o.add ⟨inner.start, some meaning, ⟨inner.start, place + 1⟩ :: nesting⟩

/-- The group read on in another mode, which is turned on at the place. -/
def turnMode (m : Mode) (place : Nat) (o : OpenGroup) : OpenGroup :=
  { o with mode := m, parts := ⟨place, none, []⟩ :: o.parts }

/-- The group with one more alternative to be read, behind the bar at the place. -/
def branch (place : Nat) (o : OpenGroup) : OpenGroup :=
  { o with earlier := o.alternative place :: o.earlier, parts := [], current := place + 1 }

/-- The group with its last part repeated, up to the given place, if there is one. -/
def repeated? (r : Repetition) (stop : Nat) (o : OpenGroup) : Option OpenGroup := do
  let last ← o.parts.head?
  let p ← last.repeated? r stop
  return { o with parts := p :: o.parts.tail }

end OpenGroup

/-- What a smallest part stands for, with its place in the text. -/
def ofAtom (m : Mode) (start stop : Cursor) : Atom → Meaning Pattern
  | .char c twoDigits => (m.char c twoDigits start.position stop.position).map one
  | .set s => s.map one
  | .edge e => .ok (edge e)

/-- Reads a part that is no group and no repetition. -/
def readPart (m : Mode) (c : Cursor) (first : Char) : Except PatternError (Part × Cursor) :=
  let one (meaning : Meaning Pattern) (stop : Cursor) : Part × Cursor :=
    (⟨c.position, some meaning, []⟩, stop)
  match first with
  | '[' => do
    let (members, stop) ← readSet m c
    return (⟨c.position, some (members.meaning.map .one), members.nesting⟩, stop)
  | '\\' => do
    let (atom, stop) ← Atom.readEscape m c
    return one (ofAtom m c stop atom) stop
  | '.' => .ok (one ((m.point c.position c.next.position).map .one) c.next)
  | '^' => .ok (one (.ok (edge m.start)) c.next)
  | '$' => .ok (one (.ok (edge m.stop)) c.next)
  | _ => .ok (one (ofAtom m c c.next (.char first false)) c.next)

/-- Reads the repetition that begins with the sign, if it is one. -/
def readRepetition? (m : Mode) (c : Cursor) (sign : Char) :
    Option (Except PatternError (Repetition × Cursor)) :=
  if sign = '\x7B' then some (Repetition.read m c)
  else (Repetition.ofSign? sign).map fun r => .ok (r, Repetition.passPreference c.next)

/-- Reads on in groups of which some are open, the innermost first, in at most so many
steps. -/
def readOpenGroups : Nat → List GroupName → OpenGroup → List OpenGroup → Cursor →
    Except PatternError (Meaning Pattern × Nesting)
  | 0, _, o, _, _ => flawed .groupUnclosed o.start (o.start + 1)
  | steps + 1, names, o, outer, c => do
    let c := c.skip o.mode
    match c.peek?, outer with
    | none, [] => return o.value c.position
    | none, _ :: _ => flawed .groupUnclosed o.start (o.start + 1)
    | some '(', _ =>
      let (opening, stop) ← Opening.read o.mode names c
      let opened (noted : Bool) (m : Mode) : OpenGroup :=
        { start := c.position, noted, mode := m, first := stop.position }
      match opening with
      | .noted name =>
        readOpenGroups steps (name.toList ++ names) (opened true o.mode) (o :: outer) stop
      | .plain m => readOpenGroups steps names (opened false m) (o :: outer) stop
      | .turn m => readOpenGroups steps names (o.turnMode m c.position) outer stop
    | some ')', [] => c.flawedHere .groupUnopened
    | some ')', p :: outer =>
      readOpenGroups steps names (p.addGroup o c.position) outer c.next
    | some '|', _ => readOpenGroups steps names (o.branch c.position) outer c.next
    | some first, _ =>
      match readRepetition? o.mode c first with
      | none =>
        let (p, stop) ← readPart o.mode c first
        readOpenGroups steps names (o.add p) outer stop
      | some reading =>
        if (o.repeated? ⟨0, none⟩ c.position).isNone then c.flawedBefore .repetitionMissing
        else
          let (r, stop) ← reading
          readOpenGroups steps names ((o.repeated? r stop.position).getD o) outer stop

/-- Reads a pattern. Every step takes a character at least. -/
def ofText (text : List Char) : Except PatternError Pattern := do
  let (meaning, nesting) ←
    readOpenGroups (text.length + 1) [] { start := 0, mode := {}, first := 0 } [] ⟨0, text⟩
  nesting.check
  let p ← meaning
  if maxRoom < p.room then .error .tooLarge
  else if ¬p.isKnown then .error .wordsUnknown
  else return p

end TypeLattice.Pattern
