import TypeLattice.Text.Unprintable
import TypeLattice.Text.CodePoints

/-!
# Quoted text

A literal is written between two delimiters on one line. The delimiter and the backslash
are escaped, and so is every character that would break the line or not show as itself:
control characters, characters without a glyph, and combining characters.

* `escape`: the escaped form of one character;
* `quote`: a text between its delimiters;
* `isControl_eq_false_of_mem_escape`: no escaped form holds a control character.
-/
namespace TypeLattice.Text

/-- The mark around a character. -/
def singleMark : Char := '\x27'

/-- The mark around a string. -/
def doubleMark : Char := '\x22'

/-- The control characters: U+0000 to U+001F and U+007F to U+009F. -/
def isControl (c : Char) : Bool := c.toNat < 0x20 || (0x7F ≤ c.toNat && c.toNat < 0xA0)

/-- The letter that stands for a character after a backslash, where there is one. -/
def escapeLetter? : Char → Option Char
  | '\x00' => some '0'
  | '\t' => some 't'
  | '\n' => some 'n'
  | '\r' => some 'r'
  | '\\' => some '\\'
  | _ => none

/-- A character by its number: backslash, `u`, and the lower-case hexadecimal digits
between braces, without leading zeros. -/
def escapeNumber (c : Char) : List Char :=
  '\\' :: 'u' :: '\x7b' :: (Nat.toDigits 16 c.toNat ++ ['\x7d'])

/-- Whether the character is written by its number when it has no escape letter. -/
def isHidden (c : Char) : Bool := isControl c || isUnprintable c || isCombining c

/-- The written form of a character inside a literal with the given delimiter. -/
def escape (delimiter c : Char) : List Char :=
  match escapeLetter? c with
  | some letter => ['\\', letter]
  | none =>
    if c = delimiter then ['\\', c]
    else if isHidden c then escapeNumber c
    else [c]

/-- A text between two delimiters. -/
def quote (delimiter : Char) (s : List Char) : List Char :=
  delimiter :: (s.flatMap (escape delimiter) ++ [delimiter])

/-- A character literal. -/
def quotedChar (c : Char) : String := String.ofList (quote singleMark [c])

/-- A string literal. -/
def quotedString (s : String) : String := String.ofList (quote doubleMark s.toList)

/-! ## No control characters -/

theorem isControl_eq_false_of_mem_toDigits {n : Nat} {c : Char}
    (h : c ∈ Nat.toDigits 16 n) : isControl c = false := by
  induction n using Nat.strongRecOn with
  | _ n ih =>
    rw [Nat.toDigits_eq_if (by decide)] at h
    have digit : ∀ d < 16, isControl (Nat.digitChar d) = false := by decide
    split at h
    · next small => rw [List.mem_singleton.1 h]; exact digit n small
    · next large =>
      rcases List.mem_append.1 h with front | last
      · exact ih (n / 16) (by omega) front
      · rw [List.mem_singleton.1 last]
        exact digit (n % 16) (Nat.mod_lt _ (by decide))

theorem isControl_eq_false_of_mem_escape {delimiter c d : Char}
    (delimiter_shows : isControl delimiter = false) (h : d ∈ escape delimiter c) :
    isControl d = false := by
  have backslash : isControl '\\' = false := by decide
  unfold escape at h
  split at h
  · next letter found =>
    have letter_shows : isControl letter = false := by
      unfold escapeLetter? at found
      split at found <;> cases found <;> decide
    simp only [List.mem_cons, List.not_mem_nil, or_false] at h
    rcases h with rfl | rfl <;> assumption
  · split at h
    · next same =>
      simp only [List.mem_cons, List.not_mem_nil, or_false] at h
      rcases h with rfl | rfl
      · exact backslash
      · rw [same]; exact delimiter_shows
    · split at h
      · simp only [escapeNumber, List.mem_cons, List.mem_append, List.not_mem_nil, or_false] at h
        rcases h with rfl | rfl | rfl | digit | rfl
        · exact backslash
        · decide
        · decide
        · exact isControl_eq_false_of_mem_toDigits digit
        · decide
      · next shown =>
        rw [List.mem_singleton.1 h]
        simp only [isHidden, Bool.or_eq_true, not_or, Bool.not_eq_true] at shown
        exact shown.1.1

end TypeLattice.Text
