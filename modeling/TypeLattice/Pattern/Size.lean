import TypeLattice.Pattern.Basic

/-!
# Room that patterns take

Before a text is searched, a pattern is laid out in states, each of which reads one byte.
Repetitions are written out, so a counted one takes as much room as so many parts. There are
two layouts, one for each direction of reading, and the larger one decides. `room` says roughly
how many bytes it takes.
-/
namespace TypeLattice

namespace CharSet

/-- Whether the set is seen to hold ASCII characters only. -/
def isNarrow : CharSet → Bool
  | empty => true
  | range _ high => high.toNat < 0x80
  | union a b => a.isNarrow && b.isNarrow
  | inter a b => a.isNarrow || b.isNarrow
  | compl _ => false
  | anyCase a => a.isNarrow

/-- The ASCII characters of the set. -/
def ascii (s : CharSet) : List Nat := (List.range 0x80).filter fun n => s.contains (Char.ofNat n)

/-- How many runs the ASCII characters of the set form. -/
def asciiRuns (s : CharSet) : Nat :=
  s.ascii.countP fun n => n = 0 || !s.contains (Char.ofNat (n - 1))

end CharSet

namespace Pattern

/-- A direction in which texts are read. -/
inductive Direction where
  | forward
  | backward
  deriving DecidableEq, Repr

/-- Whether the pattern stands for no characters, but at most for a place. -/
def isWidthless : Pattern → Bool
  | empty | edge _ => true
  | one _ => false
  | next p q | either p q => p.isWidthless && q.isWidthless
  | times p _ most => most = some 0 || p.isWidthless
  | group p => p.isWidthless

/-- The set for which the pattern stands, if it stands for single characters. -/
def set? : Pattern → Option CharSet
  | one s => some s
  | either p q => do return .union (← p.set?) (← q.set?)
  | _ => none

/-- How many bytes a state takes. -/
def state : Nat := 32

/-- How many bytes a state takes that goes on in two ways. -/
def fork : Nat := state + 8

/-- How many bytes a set takes. A single character has a state for each of its bytes, and the
others are read together as far as they begin alike, which helps less from behind. -/
def sizeOfSet (d : Direction) (s : CharSet) : Nat :=
  match s with
  | .range low high => if low = high then low.utf8Size * state else sizeOfMany
  | _ => sizeOfMany
where
  /-- The room for several characters, of any length or of ASCII. -/
  sizeOfMany : Nat :=
    if s.isNarrow then
      if s.ascii.length ≤ 1 then state else 2 * state + 8 * s.asciiRuns
    else
      match d with
      | .forward => 9 * state + 120 + 8 * s.asciiRuns
      | .backward => 28 * state + 32 + 36 * s.asciiRuns

/-- Roughly how many bytes the pattern takes in a layout. Alternatives of single characters are
a set, parts without characters are not repeated, and groups are noted only when reading
forward. -/
def size (d : Direction) : Pattern → Nat
  | empty | edge _ => state
  | one s => sizeOfSet d s
  | next p q => p.size d + q.size d
  | either p q =>
    match (either p q).set?, q with
    | some s, _ => sizeOfSet d s
    | none, either _ _ => p.size d + q.size d + 4
    | none, _ => p.size d + q.size d + state + fork
  | times p least most =>
    if most = some 0 then state
    else if p.isWidthless then p.size d
    else
      match most with
      | none => max 1 least * p.size d + fork
      | some most =>
        if most = least then least * p.size d
        else most * p.size d + (most - least) * fork + state
  | group p => p.size d + if d = .forward then 2 * state else 0

/-- How many bytes a layout takes beside the pattern: it passes over what comes before, and
notes what has been found. -/
def frame : Direction → Nat
  | .forward => 6 * state + 16
  | .backward => 4 * state + 16

/-- Roughly how many bytes the larger layout of the pattern takes. -/
def room (p : Pattern) : Nat :=
  max (p.size .forward + frame .forward) (p.size .backward + frame .backward)

end Pattern

end TypeLattice
