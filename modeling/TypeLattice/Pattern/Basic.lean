import TypeLattice.Pattern.CharSet

/-!
# Patterns of texts

A pattern says which parts of a text are meant: characters of a set, one thing after the
other, one of two things, a repetition, or a place between characters. Whether a place fits
depends on its neighbours only, so a text is searched in one pass: `p.after g c` is what is
left to find of `p` when the character `c` has been read at the place `g`, and
`p.fitsEmpty g` says that nothing more is needed there.
-/
namespace TypeLattice

/-- A place in a text, between two characters or at one of its ends. -/
structure Gap where
  before : Option Char
  after : Option Char
  deriving DecidableEq, Repr

/-- A condition on a place. -/
inductive Edge where
  | textStart
  | textStop
  /-- After a line feed, or at the start. -/
  | lineStart
  /-- Before a line feed, or at the end. -/
  | lineStop
  /-- Like `lineStart`, where a return and both together end a line as well. -/
  | returnLineStart
  /-- Like `lineStop`, where a return and both together end a line as well. -/
  | returnLineStop
  /-- Where a word of ASCII characters starts or stops. -/
  | wordEdge
  /-- Where no such word starts or stops. -/
  | noWordEdge
  | wordStart
  | wordStop
  /-- After no ASCII character of a word. -/
  | noWordBefore
  /-- Before no ASCII character of a word. -/
  | noWordAfter
  /-- An edge of words in any script. As it is not known of which characters they are made, it
  is nowhere. -/
  | wideWordEdge
  deriving DecidableEq, Repr

namespace Gap

/-- Whether the place is after an ASCII character of a word. -/
def isAfterWord (g : Gap) : Bool := g.before.any CharSet.word.contains

/-- Whether the place is before an ASCII character of a word. -/
def isBeforeWord (g : Gap) : Bool := g.after.any CharSet.word.contains

end Gap

/-- Whether the place meets the condition. -/
def Edge.holdsAt (g : Gap) : Edge → Bool
  | textStart => g.before = none
  | textStop => g.after = none
  | lineStart => g.before = none || g.before = some '\n'
  | lineStop => g.after = none || g.after = some '\n'
  | returnLineStart =>
    g.before = none || g.before = some '\n' || (g.before = some '\r' && g.after ≠ some '\n')
  | returnLineStop =>
    g.after = none || g.after = some '\r' || (g.after = some '\n' && g.before ≠ some '\r')
  | wordEdge => g.isAfterWord != g.isBeforeWord
  | noWordEdge => g.isAfterWord == g.isBeforeWord
  | wordStart => !g.isAfterWord && g.isBeforeWord
  | wordStop => g.isAfterWord && !g.isBeforeWord
  | noWordBefore => !g.isAfterWord
  | noWordAfter => !g.isBeforeWord
  | wideWordEdge => false

/-- Which parts of a text are meant. -/
inductive Pattern where
  | empty
  | one (set : CharSet)
  | edge (e : Edge)
  /-- One part right after the other. -/
  | next (p q : Pattern)
  | either (p q : Pattern)
  /-- At least and at most that many parts in a row. -/
  | times (p : Pattern) (least : Nat) (most : Option Nat)
  /-- A part that is noted when it is found. -/
  | group (p : Pattern)
  deriving DecidableEq, Repr

namespace Pattern

/-- Whether the pattern fits the empty part at the place. -/
def fitsEmpty (g : Gap) : Pattern → Bool
  | empty => true
  | one _ => false
  | edge e => e.holdsAt g
  | next p q => p.fitsEmpty g && q.fitsEmpty g
  | either p q => p.fitsEmpty g || q.fitsEmpty g
  | times p least _ => least = 0 || p.fitsEmpty g
  | group p => p.fitsEmpty g

/-- What is left of a first pattern before a second one. -/
def before (q p : Pattern) : Pattern :=
  match p, q with
  | empty, _ => q
  | _, empty => p
  | _, _ => next p q

/-- What is left to find of a pattern after the character at the place. A repetition of parts
that may be empty there has no more parts to make up for. -/
def after (g : Gap) (c : Char) : Pattern → List Pattern
  | empty | edge _ => []
  | one set => if set.contains c then [empty] else []
  | next p q =>
    (p.after g c).map (before q) ++ if p.fitsEmpty g then q.after g c else []
  | either p q => p.after g c ++ q.after g c
  | times p least most =>
    if most = some 0 then []
    else
      (p.after g c).map <| before <|
        times p (if p.fitsEmpty g then 0 else least - 1) (most.map (· - 1))
  | group p => p.after g c

/-- Whether one of the patterns fits from the place before a text, or the first one from a
later place. -/
def search (p : Pattern) (live : List Pattern) (last : Option Char) : List Char → Bool
  | [] => (p :: live).any (·.fitsEmpty ⟨last, none⟩)
  | c :: s =>
    let g : Gap := ⟨last, some c⟩
    (p :: live).any (·.fitsEmpty g) ||
      search p ((p :: live).flatMap (·.after g c)).eraseDups (some c) s

/-- Whether some part of the text fits the pattern. -/
def isFoundIn (s : List Char) (p : Pattern) : Bool := search p [] none s

/-- Whether no edge of words in any script matters to the pattern. -/
def isKnown : Pattern → Bool
  | empty | one _ => true
  | edge e => e ≠ .wideWordEdge
  | next p q | either p q => p.isKnown && q.isKnown
  | times p _ most => most = some 0 || p.isKnown
  | group p => p.isKnown

end Pattern

end TypeLattice
