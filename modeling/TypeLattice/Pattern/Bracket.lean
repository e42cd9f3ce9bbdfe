import TypeLattice.Pattern.Escape
import TypeLattice.Pattern.Error

/-!
# Sets in brackets

Brackets hold characters, ranges, classes and further brackets; what they hold is united, and
double signs stand for the other operations on sets, from left to right. A circumflex at the
front stands for all other characters.

Where characters stand for all that differ in case, they do so in the whole of a set and of
either side of an operation, unless there are only classes and brackets in it, which have been
seen to already.
-/
namespace TypeLattice.Pattern

/-- The operations on sets within brackets. -/
inductive SetOperation where
  | inter
  | diff
  | symmDiff
  deriving DecidableEq, Repr

namespace SetOperation

/-- The sign of which two stand for the operation. -/
def ofSign? : Char → Option SetOperation
  | '&' => some inter
  | '-' => some diff
  | '~' => some symmDiff
  | _ => none

/-- The result of the operation. -/
def apply (a b : CharSet) : SetOperation → CharSet
  | inter => .inter a b
  | diff => .diff a b
  | symmDiff => .symmDiff a b

end SetOperation

/-- Members of a set one after the other, as they stand on a side of an operation. -/
structure Members where
  /-- How many there are. -/
  count : Nat
  meaning : Meaning CharSet
  /-- Whether a character or a range is among them. -/
  hasOwn : Bool := false
  /-- The part of the text from the first to the last. -/
  part : Text.Span
  /-- The nesting within the members. -/
  inner : Nesting := []

namespace Members

/-- No members so far at the place. -/
def none (place : Nat) : Members := ⟨0, .ok .empty, false, ⟨place, place⟩, []⟩

/-- A character or a range. -/
def own (meaning : Meaning CharSet) (start stop : Nat) : Members :=
  ⟨1, meaning, true, ⟨start, stop⟩, []⟩

/-- A class. -/
def ofClass (meaning : Meaning CharSet) (start stop : Nat) : Members :=
  ⟨1, meaning, false, ⟨start, stop⟩, []⟩

/-- The first members with the second ones behind. -/
def append (a b : Members) : Members where
  count := a.count + b.count
  meaning := do return .union (← a.meaning) (← b.meaning)
  hasOwn := a.hasOwn || b.hasOwn
  part := if a.count = 0 then b.part else ⟨a.part.start, b.part.stop⟩
  inner := a.inner.beside b.inner

/-- The nesting of the members. Several are a part of the pattern together. -/
def nesting (a : Members) : Nesting := if 1 < a.count then a.part :: a.inner else a.inner

/-- What they stand for together in the mode, with their place in the text. -/
def value (m : Mode) (part : Text.Span) (a : Members) : Meaning CharSet := do
  let s ← a.meaning
  if a.hasOwn then m.set s part.start part.stop else return s

end Members

/-- The result of an operation as a member. The right side is seen to first. -/
def SetOperation.result (m : Mode) (a b : Members) (operation : SetOperation) : Members :=
  let part : Text.Span := ⟨a.part.start, b.part.stop⟩
  let meaning := do
    let _ ← a.meaning
    let right ← b.value m b.part
    let left ← a.value m a.part
    return operation.apply left right
  ⟨1, meaning, false, part, part :: a.nesting.beside b.nesting⟩

/-- What has been read of a set in brackets. -/
structure OpenSet where
  /-- Where the set begins. -/
  start : Nat
  /-- Where its first members begin. -/
  stop : Nat
  negated : Bool
  /-- The left side of the operation being read, if any. -/
  left : Option (Members × SetOperation) := none
  /-- The members since the start or the last operation. -/
  members : Members

namespace OpenSet

/-- The set with a further member. -/
def add (more : Members) (o : OpenSet) : OpenSet := { o with members := o.members.append more }

/-- The set after the operation being read. -/
def body (m : Mode) (o : OpenSet) : Members :=
  match o.left with
  | none => o.members
  | some (left, operation) => operation.result m left o.members

/-- The set with what has been read as the left side of an operation, and the right side to
be read from the place on. -/
def operate (m : Mode) (operation : SetOperation) (place : Nat) (o : OpenSet) : OpenSet :=
  { o with left := some (o.body m, operation), members := .none place }

/-- The set in brackets as a member, which ends before the given place. -/
def close (m : Mode) (stop : Nat) (o : OpenSet) : Members :=
  let part : Text.Span := ⟨o.start, stop⟩
  let body := o.body m
  let meaning := do
    let s ← body.value m part
    if o.negated then m.others s o.start stop else return s
  ⟨1, meaning, false, part, part :: body.nesting⟩

/-- Reads hyphens that stand for themselves, in at most so many steps. -/
def readHyphens (m : Mode) : Nat → Members → Cursor → Members × Cursor
  | 0, a, c => (a, c)
  | steps + 1, a, c =>
    if c.peek? = some '-' then
      let hyphen := Members.own (.ok (.single '-')) c.position (c.position + 1)
      readHyphens m steps (a.append hyphen) (c.next.skip m)
    else (a, c)

/-- Reads the beginning of a set: hyphens and a closing bracket stand for themselves there. -/
def read (m : Mode) (start : Cursor) : Except PatternError (OpenSet × Cursor) :=
  let first := start.next.skip m
  let negated := first.peek? = some '^'
  let inner := if negated then first.next.skip m else first
  let (hyphens, place) := readHyphens m inner.rest.length (.none inner.position) inner
  let opened (stop : Cursor) (members : Members) : OpenSet :=
    { start := start.position, stop := stop.position, negated, members }
  match place.peek? with
  | none =>
    flawed .setUnclosed start.position (if hyphens.hasOwn then start.position else place.position)
  | some c =>
    if ¬hyphens.hasOwn ∧ c = ']' then
      let stop := place.next.skip m
      if stop.peek? = none then flawed .setUnclosed start.position stop.position
      else
        let bracket := Members.own (.ok (.single ']')) place.position (place.position + 1)
        .ok (opened stop bracket, stop)
    else .ok (opened place hyphens, place)

end OpenSet

/-- Reads an ASCII class by its name, if there is one. -/
def readNamedSet? (m : Mode) (start : Cursor) : Option (Members × Cursor) := do
  let name ← start.after? "[:"
  let negated := name.peek? = some '^'
  let inner := if negated then name.next else name
  let letters := inner.rest.takeWhile (· ≠ ':')
  let s ← CharSet.ofName? letters
  let stop ← (inner.forward letters.length).after? ":]"
  let meaning := do
    let s ← m.set s start.position stop.position
    if negated then m.others s start.position stop.position else return s
  return (.ofClass meaning start.position stop.position, stop)

/-- Reads a member of a set. -/
def readMember (m : Mode) (start : Cursor) : Except PatternError (Atom × Cursor) :=
  match start.peek? with
  | some '\\' => Atom.readEscape m start
  | some c => .ok (.char c false, start.next)
  | none => start.flawedBefore .setUnclosed

/-- The end of a range, which has to be a character, and what it stands for. -/
def Atom.boundary (m : Mode) (start stop : Cursor) :
    Atom → Except PatternError (Char × Meaning Char)
  | .char c twoDigits => .ok (c, m.member c twoDigits start.position stop.position)
  | .set _ | .edge _ => flawed .setRangeInvalid start.position stop.position

/-- Reads a character, a range or a class within the set. -/
def readMembers (m : Mode) (o : OpenSet) (start : Cursor) :
    Except PatternError (Members × Cursor) := do
  let (low, lowStop) ← readMember m start
  let sign := lowStop.skip m
  let high := sign.next.skip m
  if sign.peek? = none then flawed .setUnclosed o.start o.stop
  else if sign.peek? ≠ some '-' ∨ sign.peekBeyond? m ∈ [some ']', some '-'] then
    match low with
    | .char c twoDigits =>
      let meaning := m.member c twoDigits start.position lowStop.position
      return (.own (meaning.map .single) start.position lowStop.position, sign)
    | .set s => return (.ofClass s start.position lowStop.position, sign)
    | .edge _ => flawed .setEscapeInvalid start.position lowStop.position
  else if high.peek? = none then flawed .setUnclosed o.start o.stop
  else
    let (top, stop) ← readMember m high
    let (first, lowMeaning) ← low.boundary m start lowStop
    let (last, topMeaning) ← top.boundary m high stop
    if first ≤ last then
      let meaning := do return .range (← lowMeaning) (← topMeaning)
      return (.own meaning start.position stop.position, stop)
    else flawed .setRangeReversed start.position stop.position

/-- Reads on in sets of which some are open, the innermost first, in at most so many steps. -/
def readOpenSets (m : Mode) : Nat → OpenSet → List OpenSet → Cursor →
    Except PatternError (Members × Cursor)
  | 0, o, _, _ => flawed .setUnclosed o.start o.stop
  | steps + 1, o, outer, c => do
    let c := c.skip m
    match c.rest with
    | [] => flawed .setUnclosed o.start o.stop
    | '[' :: _ =>
      match readNamedSet? m c with
      | some (members, stop) => readOpenSets m steps (o.add members) outer stop
      | none =>
        let (inner, stop) ← OpenSet.read m c
        readOpenSets m steps inner (o :: outer) stop
    | ']' :: _ =>
      let closed := o.close m c.next.position
      match outer with
      | [] => return (closed, c.next)
      | p :: outer => readOpenSets m steps (p.add closed) outer c.next
    | sign :: later =>
      match SetOperation.ofSign? sign with
      | some operation =>
        if later.head? = some sign then
          let stop := c.next.next
          readOpenSets m steps (o.operate m operation stop.position) outer stop
        else
          let (members, stop) ← readMembers m o c
          readOpenSets m steps (o.add members) outer stop
      | none =>
        let (members, stop) ← readMembers m o c
        readOpenSets m steps (o.add members) outer stop

/-- Reads a set in brackets. Every step takes a character at least. -/
def readSet (m : Mode) (start : Cursor) : Except PatternError (Members × Cursor) := do
  let (o, stop) ← OpenSet.read m start
  readOpenSets m (stop.rest.length + 1) o [] stop

end TypeLattice.Pattern
