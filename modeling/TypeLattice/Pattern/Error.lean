import TypeLattice.Text.Marked

/-!
# What is wrong with a written pattern

A pattern is refused for a flaw at some part of its text, or as a whole. The message for a
flaw shows the text with marks under that part.

A part may be written well and still have no meaning, because what it stands for is not
known. Such flaws count only where the whole pattern could be read, so a reader gives the
`Meaning` of a part beside the place where it stops. It also gives the `Nesting` of the part, since
a pattern is refused as well if its parts lie deeper in each other than `Pattern.maxDepth`.
-/
namespace TypeLattice

open Text (Span)

namespace Pattern

/-- How deep parts of a pattern may be nested. -/
def maxDepth : Nat := 250

/-- How many bytes a pattern may take. -/
def maxRoom : Nat := 10485760

end Pattern

/-- What is wrong with a written pattern. -/
inductive PatternFlaw where
  | groupUnclosed
  | groupUnopened
  | groupNameEmpty
  | groupNameInvalid
  | groupNameUnclosed
  | groupNameRepeated
  | lookAround
  | flagUnknown
  | flagRepeated
  | flagsUnfinished
  | negationRepeated
  | negationDangling
  | repetitionMissing
  | repetitionUnclosed
  | repetitionCountMissing
  | repetitionCountReversed
  | numberTooLarge
  | escapeUnknown
  | escapeUnfinished
  | backreference
  | hexEmpty
  | hexDigitInvalid
  | hexNoCharacter
  | propertyInvalid
  | propertyUnknown
  | setUnclosed
  | setEscapeInvalid
  | setRangeReversed
  | setRangeInvalid
  | wordEdgeUnclosed
  | wordEdgeUnknown
  | wordEdgeUnfinished
  | classUnknown
  | caseUnknown
  | propertyValueUnknown
  | wideNotAllowed
  | encodingInvalid
  | nestedTooDeep
  deriving DecidableEq, Repr

/-- The wording of a flaw. -/
def PatternFlaw.message : PatternFlaw → String
  | groupUnclosed => "unclosed group"
  | groupUnopened => "unopened group"
  | groupNameEmpty => "empty capture group name"
  | groupNameInvalid => "invalid capture group character"
  | groupNameUnclosed => "unclosed capture group name"
  | groupNameRepeated => "duplicate capture group name"
  | lookAround => "look-around, including look-ahead and look-behind, is not supported"
  | flagUnknown => "unrecognized flag"
  | flagRepeated => "duplicate flag"
  | flagsUnfinished => "expected flag but got end of regex"
  | negationRepeated => "flag negation operator repeated"
  | negationDangling => "dangling flag negation operator"
  | repetitionMissing => "repetition operator missing expression"
  | repetitionUnclosed => "unclosed counted repetition"
  | repetitionCountMissing => "repetition quantifier expects a valid decimal"
  | repetitionCountReversed => "invalid repetition count range, the start must be <= the end"
  | numberTooLarge => "decimal literal invalid"
  | escapeUnknown => "unrecognized escape sequence"
  | escapeUnfinished => "incomplete escape sequence, reached end of pattern prematurely"
  | backreference => "backreferences are not supported"
  | hexEmpty => "hexadecimal literal empty"
  | hexDigitInvalid => "invalid hexadecimal digit"
  | hexNoCharacter => "hexadecimal literal is not a Unicode scalar value"
  | propertyInvalid => "invalid Unicode character class"
  | propertyUnknown => "Unicode property not found"
  | setUnclosed => "unclosed character class"
  | setEscapeInvalid => "invalid escape sequence found in character class"
  | setRangeReversed => "invalid character class range, the start must be <= the end"
  | setRangeInvalid => "invalid range boundary, must be a literal"
  | wordEdgeUnclosed =>
    "special word boundary assertion is either unclosed or contains an invalid character"
  | wordEdgeUnknown =>
    "unrecognized special word boundary assertion, valid choices are: start, end, start-half " ++
      "or end-half"
  | wordEdgeUnfinished =>
    "found either the beginning of a special word boundary or a bounded repetition on a \\b " ++
      "with an opening brace, but no closing brace"
  | classUnknown =>
    "Unicode-aware Perl class not found (make sure the unicode-perl feature is enabled)"
  | caseUnknown =>
    "Unicode-aware case insensitivity matching is not available (make sure the unicode-case " ++
      "feature is enabled)"
  | propertyValueUnknown => "Unicode property value not found"
  | wideNotAllowed => "Unicode not allowed here"
  | encodingInvalid => "pattern can match invalid UTF-8"
  | nestedTooDeep =>
    "exceed the maximum number of nested parentheses/brackets (" ++ toString Pattern.maxDepth ++
      ")"

/-- Why a pattern is refused. -/
inductive PatternError where
  /-- A flaw at some parts of its text, given in ascending order. -/
  | flawed (flaw : PatternFlaw) (parts : List Span)
  /-- It takes more room than there is. -/
  | tooLarge
  /-- It has an edge of words in any script. -/
  | wordsUnknown
  deriving DecidableEq, Repr

namespace PatternError

/-- The wording of the error, with the text of the pattern. -/
def message (text : List Char) : PatternError → String
  | flawed flaw parts =>
    let divider := if '\n' ∈ text then String.ofList (List.replicate 79 '~') ++ "\n" else ""
    "regex parse error:\n" ++ divider ++ Text.marked text parts ++ divider ++
      Text.crossings text parts ++ "error: " ++ flaw.message
  | tooLarge => "Compiled regex exceeds size limit of " ++ toString Pattern.maxRoom ++ " bytes."
  | wordsUnknown => "error building NFA"

end PatternError

namespace Pattern

/-- What a part of a pattern stands for, or why that is not known. -/
abbrev Meaning (α : Type) := Except PatternError α

/-- An error at one part of a written pattern. -/
def flawed {α : Type} (flaw : PatternFlaw) (start stop : Nat) : Except PatternError α :=
  .error (.flawed flaw [⟨start, stop⟩])

/-! ## Nesting of parts -/

/-- For every depth the first part there that has parts of its own. -/
abbrev Nesting := List Text.Span

namespace Nesting

/-- The nesting of two parts, the first one before the second. -/
def beside : Nesting → Nesting → Nesting
  | first :: a, _ :: b => first :: beside a b
  | [], b => b
  | a, [] => a

/-- The nesting of parts in a row. -/
def ofRow (parts : List Nesting) : Nesting := parts.foldl beside []

/-- Refuses a part that is nested too deep. -/
def check (n : Nesting) : Except PatternError Unit :=
  match n[maxDepth]? with
  | some part => flawed .nestedTooDeep part.start part.stop
  | none => .ok ()

end Nesting

end Pattern

end TypeLattice
