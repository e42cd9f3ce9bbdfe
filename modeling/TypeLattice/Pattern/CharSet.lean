/-!
# Sets of characters

A set of characters is built from ranges by the operations on sets. `contains` decides
membership. Some classes of ASCII characters have names.
-/
namespace TypeLattice

/-- A set of characters. -/
inductive CharSet where
  | empty
  | range (low high : Char)
  | union (a b : CharSet)
  | inter (a b : CharSet)
  | compl (a : CharSet)
  /-- The characters that differ from a member in nothing but the case of an ASCII letter. -/
  | anyCase (a : CharSet)
  deriving DecidableEq, Repr

namespace CharSet

/-- The same letter in the other case, for letters of ASCII. -/
def swapCase (c : Char) : Char := if c.isUpper then c.toLower else c.toUpper

/-- Whether the character is a member. -/
def contains : CharSet → Char → Bool
  | empty, _ => false
  | range low high, c => low ≤ c && c ≤ high
  | union a b, c => a.contains c || b.contains c
  | inter a b, c => a.contains c && b.contains c
  | compl a, c => !a.contains c
  | anyCase a, c => a.contains c || a.contains (swapCase c)

/-- The set with one member. -/
def single (c : Char) : CharSet := range c c

/-- The set of all characters. -/
def all : CharSet := compl empty

/-- The members of the first set that are none of the second. -/
def diff (a b : CharSet) : CharSet := inter a (compl b)

/-- The members of one of the sets that are none of the other. -/
def symmDiff (a b : CharSet) : CharSet := union (diff a b) (diff b a)

/-- The characters of some ranges. -/
def ofRanges (ranges : List (Char × Char)) : CharSet :=
  ranges.foldr (fun (low, high) a => union (range low high) a) empty

/-- The ASCII digits. -/
def digits : CharSet := range '0' '9'

/-- The ASCII blanks. -/
def blanks : CharSet := ofRanges [('\t', '\r'), (' ', ' ')]

/-- The ASCII characters of words. -/
def word : CharSet := ofRanges [('0', '9'), ('A', 'Z'), ('_', '_'), ('a', 'z')]

/-- The ASCII classes with their names. -/
def named : List (String × CharSet) :=
  [("alnum", ofRanges [('0', '9'), ('A', 'Z'), ('a', 'z')]),
    ("alpha", ofRanges [('A', 'Z'), ('a', 'z')]),
    ("ascii", range '\x00' '\x7F'),
    ("blank", ofRanges [('\t', '\t'), (' ', ' ')]),
    ("cntrl", ofRanges [('\x00', '\x1F'), ('\x7F', '\x7F')]),
    ("digit", digits),
    ("graph", range '!' '~'),
    ("lower", range 'a' 'z'),
    ("print", range ' ' '~'),
    ("punct", ofRanges [('!', '/'), (':', '@'), ('[', '\x60'), ('\x7B', '~')]),
    ("space", blanks),
    ("upper", range 'A' 'Z'),
    ("word", word),
    ("xdigit", ofRanges [('0', '9'), ('A', 'F'), ('a', 'f')])]

/-- The ASCII class of that name. -/
def ofName? (name : List Char) : Option CharSet :=
  (named.find? fun (n, _) => n.toList = name).map (·.2)

end CharSet

end TypeLattice
