/-!
# Control sequences of terminals

A terminal takes some texts as commands: they begin with an escape character, and the
characters after it decide where they end. `withoutSequences` is a text as it is shown
where there is no terminal: such sequences are left out, and so are the control characters
that are no blanks. A text without control characters, blanks apart, stays as it is
(`withoutSequences_eq_self`).

A layout character such as a tabulator or a line feed interrupts a sequence: from there on
the text is shown, until the next control character takes the sequence up again. A character
beyond ASCII that is shown ends the interrupted sequence; inside a sequence it is left out.
Nothing of a text that is sent along with a command is shown, layout characters neither, and
a text for a device ends early where the byte 9C occurs in the encoding of a character.
-/
namespace TypeLattice.Text

/-- What a terminal is in the middle of. -/
inductive Sequence where
  /-- Plain text. -/
  | none
  /-- An escape character and nothing else. -/
  | escape
  /-- An escape character and the beginning of a name of several characters. -/
  | named
  /-- A control sequence, which ends with a character from `@` to `~`. -/
  | control
  /-- A command to the system, which ends with the bell. -/
  | command
  /-- The head of a text for a device, of which nothing has been given. -/
  | device
  /-- The head of a text for a device, in its parameters. -/
  | deviceParameters
  /-- The head of a text for a device, in its name of several characters. -/
  | deviceName
  /-- A text that only another escape, a cancellation or the byte 9C ends. -/
  | string
  deriving DecidableEq, Repr

namespace Sequence

/-- What an ASCII character of a sequence leads to. -/
def next (c : Char) : Sequence → Sequence
  | none => none
  | escape =>
    if c = '[' then control
    else if c = ']' then command
    else if c = 'P' then device
    else if c = 'X' ∨ c = '^' ∨ c = '_' then string
    else if '0' ≤ c ∧ c ≤ '~' then none
    else if ' ' ≤ c ∧ c ≤ '/' then named
    else escape
  | named => if '0' ≤ c ∧ c ≤ '~' then none else named
  | control => if '@' ≤ c ∧ c ≤ '~' then none else control
  | command => if c = '\x07' then none else command
  | device =>
    if ' ' ≤ c ∧ c ≤ '/' then deviceName
    else if '0' ≤ c ∧ c ≤ '?' then deviceParameters
    else if '@' ≤ c ∧ c ≤ '~' then string
    else device
  | deviceParameters =>
    if ' ' ≤ c ∧ c ≤ '/' then deviceName
    else if '<' ≤ c ∧ c ≤ '~' then string
    else deviceParameters
  | deviceName => if '0' ≤ c ∧ c ≤ '~' then string else deviceName
  | string => string

/-- What a character beyond ASCII leads to, which is left out with the sequence. -/
def nextWide (c : Char) : Sequence → Sequence
  | string => if (String.utf8EncodeChar c).contains 0x9C then none else string
  | sequence => sequence

/-- Whether a blank inside the sequence is shown. -/
def showsBlanks : Sequence → Bool
  | none | escape | named | control => true
  | command | device | deviceParameters | deviceName | string => false

end Sequence

/-- Whether the character is beyond ASCII. -/
def isWide (c : Char) : Bool := 0x80 ≤ c.toNat

/-- The control characters that move on a page: tabulator, line feed, form feed, return. -/
def isLayout (c : Char) : Bool := c = '\t' || c = '\n' || c = '\x0C' || c = '\r'

/-- Whether plain text shows the character. -/
def isShown (c : Char) : Bool := isWide c || isLayout c || (' ' ≤ c && c ≤ '~')

/-- How far a terminal has come in a text. -/
structure Progress where
  sequence : Sequence := .none
  /-- Whether the sequence, if any, is interrupted. -/
  interrupted : Bool := false
  deriving DecidableEq, Repr

namespace Progress

/-- The progress after a character, and what is shown of it. -/
def step (p : Progress) (c : Char) : Progress × List Char :=
  if c = '\x1B' then (⟨.escape, false⟩, [])
  else if c = '\x18' ∨ c = '\x1A' then (⟨.none, false⟩, [])
  else if isShown c ∧ (p.sequence = .none ∨ p.interrupted) then
    (⟨if isWide c then .none else p.sequence, true⟩, [c])
  else if isWide c then (⟨p.sequence.nextWide c, false⟩, [])
  else if isLayout c ∧ p.sequence.showsBlanks then (⟨p.sequence, true⟩, [c])
  else (⟨p.sequence.next c, false⟩, [])

/-- What is shown of the rest of a text. -/
def rest (p : Progress) : List Char → List Char
  | [] => []
  | c :: cs => (p.step c).2 ++ (p.step c).1.rest cs

end Progress

/-- The text as it is shown where there is no terminal. -/
def withoutSequences (text : String) : String :=
  String.ofList (({} : Progress).rest text.toList)

theorem Progress.step_of_shown {p : Progress} (none : p.sequence = .none) {c : Char}
    (shown : isShown c = true) : p.step c = (⟨.none, true⟩, [c]) := by
  have plain : c ≠ '\x1B' ∧ c ≠ '\x18' ∧ c ≠ '\x1A' := by
    refine ⟨?_, ?_, ?_⟩ <;> (rintro rfl; revert shown; decide)
  simp [Progress.step, plain, shown, none]

theorem Progress.rest_eq_self {p : Progress} (none : p.sequence = .none) {cs : List Char}
    (shown : ∀ c ∈ cs, isShown c = true) : p.rest cs = cs := by
  induction cs generalizing p with
  | nil => rfl
  | cons c cs ih =>
    rw [Progress.rest, step_of_shown none (shown c List.mem_cons_self)]
    exact congrArg (c :: ·) (ih rfl fun d mem => shown d (List.mem_cons_of_mem c mem))

theorem withoutSequences_eq_self {text : String} (shown : ∀ c ∈ text.toList, isShown c = true) :
    withoutSequences text = text := by
  rw [withoutSequences, Progress.rest_eq_self rfl shown, String.ofList_toList]

end TypeLattice.Text
