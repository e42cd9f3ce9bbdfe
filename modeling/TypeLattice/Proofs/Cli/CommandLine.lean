import TypeLattice.Proofs.Cli.Grammar

/-!
# Command lines that are carried out

Before the command stand only words that ask for more log records, and what they come to holds
unless such words stand behind it too.

Results:

* `exists_command_of_ofWords`: a command line that is carried out has a command;
* `ofWords_command_eq_ok_iff`: what a command line with a command asks for.
-/
namespace TypeLattice.Cli

/-- A command that is carried out, apart from what stands behind it. -/
inductive Verb where
  | types
  | size
  deriving DecidableEq

namespace Verb

/-- The name of the command. -/
def word : Verb → String
  | types => "types"
  | size => "size"

/-- The options and names that the command takes. -/
def scope : Verb → Scope
  | types => .types
  | size => .size

/-- The command as the words behind it describe it. -/
def command : Verb → Reading → Except Halt Command
  | types => Reading.types
  | size => Reading.size

theorem ofString_word (v : Verb) : Word.ofString v.word = .plain v.word := by cases v <;> rfl

end Verb

namespace Invocation

variable {i : Invocation} {r : Reading}

/-! ## The command -/

theorem ofReading_eq_ok_iff {before : Nat} {command : Reading → Except Halt Command} :
    ofReading before command r = .ok i ↔ command r = .ok i.command ∧
      i.verbosity = if r.verbosity = 0 then before else r.verbosity := by
  unfold ofReading
  cases hc : command r with
  | error e => simp [bind, Except.bind]
  | ok c =>
    obtain ⟨verbosity, c'⟩ := i
    simp [bind, Except.bind, pure, Except.pure, and_comm, eq_comm]

theorem ofReading_of_error {command : Reading → Except Halt Command} {halt : Halt}
    (h : command r = .error halt) (before : Nat) : ofReading before command r = .error halt := by
  rw [ofReading, h]
  rfl

theorem ofCommand_verb (hl : r.literal = false) (v : Verb) (words : List String) :
    ofCommand r v.word words =
      (Reading.takeWords v.scope words).bind (ofReading r.verbosity v.command) := by
  unfold ofCommand
  rw [if_neg (by simp [hl])]
  cases v <;> rfl

/-- Behind a separator nothing is carried out, and only the two commands are. -/
theorem exists_verb_of_ofCommand {word : String} {words : List String}
    (h : ofCommand r word words = .ok i) : r.literal = false ∧ ∃ v : Verb, word = v.word := by
  unfold ofCommand at h
  split at h
  · cases h
  · rename_i hl
    refine ⟨Bool.eq_false_iff.2 hl, ?_⟩
    split at h
    · exact ⟨.types, rfl⟩
    · exact ⟨.size, rfl⟩
    · cases h
    · cases h

/-! ## Words before the command -/

theorem ofRest_literal_ne_ok (hl : r.literal = true) (words : List String) :
    ofRest r words ≠ .ok i := by
  intro h
  cases words with
  | nil => cases h
  | cons word words =>
    rw [ofRest, hl] at h
    have hliteral := (exists_verb_of_ofCommand h).1
    simp [hl] at hliteral

theorem ofRest_cons_of_not_plain (hl : r.literal = false) {word : String}
    (hw : Word.ofString word ≠ .plain word) {words : List String}
    (h : ofRest r (word :: words) = .ok i) :
    ∃ t, r.takeWord .program word = .ok t ∧ ofRest t words = .ok i := by
  have htake : ofRest r (word :: words) = (r.takeWord .program word).bind (ofRest · words) := by
    have hword := Word.text_ofString word
    rw [ofRest, hl]
    cases hform : Word.ofString word with
    | plain text =>
      rw [hform] at hword
      have htext : text = word := hword
      rw [hform, htext] at hw
      exact absurd rfl hw
    | separator | long name value | cluster letters => rfl
  rw [htake] at h
  cases ht : r.takeWord .program word with
  | error e =>
    rw [ht] at h
    cases h
  | ok t =>
    rw [ht] at h
    exact ⟨t, rfl, h⟩

theorem exists_command_of_ofRest {words : List String} (ho : r.IsOpen)
    (h : ofRest r words = .ok i) :
    ∃ (before : List Louder) (v : Verb) (behind : List String),
      words = before.map Louder.text ++ v.word :: behind := by
  induction words generalizing r with
  | nil => cases h
  | cons word words ih =>
    by_cases hw : Word.ofString word = .plain word
    · rw [ofRest, ho.literal, hw] at h
      obtain ⟨-, v, rfl⟩ := exists_verb_of_ofCommand h
      exact ⟨[], v, words, rfl⟩
    · obtain ⟨t, ht, hrest⟩ := ofRest_cons_of_not_plain ho.literal hw h
      rcases Reading.takeWord_cases ho ht with ⟨-, rfl⟩ | ⟨g, known, -, hwords, rfl⟩ |
        ⟨-, known, -⟩ | ⟨hscope, -⟩
      · exact absurd hrest (ofRest_literal_ne_ok rfl words)
      · obtain ⟨before, v, behind, rfl⟩ := ih (ho.addTo g) hrest
        cases g with
        | louder m =>
          cases hwords
          exact ⟨m :: before, v, behind, rfl⟩
        | json | scalars | references | color joined w => cases known
      · cases known
      · cases hscope

theorem exists_command_of_ofWords {words : List String} (h : ofWords words = .ok i) :
    ∃ (before : List Louder) (v : Verb) (behind : List String),
      words = before.map Louder.text ++ v.word :: behind :=
  exists_command_of_ofRest Reading.isOpen_empty h

/-- The words behind the command are read apart from those before it. -/
theorem ofWords_command (before : List Louder) (v : Verb) (behind : List String) :
    ofWords (before.map Louder.text ++ v.word :: behind) =
      (Reading.takeWords v.scope behind).bind
        (ofReading (min 255 (Louder.total before)) v.command) := by
  have hbefore : (Reading.louder (Louder.total before) {}).verbosity =
      min 255 (Louder.total before) := by
    rw [Reading.louder, Nat.zero_add]
    rfl
  rw [ofWords_louder_command before v.ofString_word, ofCommand_verb rfl, hbefore]

theorem ofWords_command_of_takes {v : Verb} {behind : List String}
    (h : Reading.Takes v.scope {} behind r) (before : List Louder) :
    ofWords (before.map Louder.text ++ v.word :: behind) =
      ofReading (min 255 (Louder.total before)) v.command r := by
  have hrun : Reading.takeWords v.scope behind = .ok r := h.run_eq_ok Reading.isOpen_empty
  rw [ofWords_command, hrun]
  rfl

/-- What a command line with a command asks for. The words for more log records behind the command
take the place of those before it. -/
theorem ofWords_command_eq_ok_iff (before : List Louder) (v : Verb) (behind : List String) :
    ofWords (before.map Louder.text ++ v.word :: behind) = .ok i ↔
      ∃ r, Reading.Takes v.scope {} behind r ∧ v.command r = .ok i.command ∧
        i.verbosity = if r.verbosity = 0 then min 255 (Louder.total before) else r.verbosity := by
  constructor
  · intro h
    rw [ofWords_command] at h
    cases ht : Reading.takeWords v.scope behind with
    | error e =>
      rw [ht] at h
      cases h
    | ok r =>
      rw [ht] at h
      exact ⟨r, Reading.takes_of_run Reading.isOpen_empty ht, ofReading_eq_ok_iff.1 h⟩
  · rintro ⟨r, ht, h⟩
    rw [ofWords_command_of_takes ht]
    exact ofReading_eq_ok_iff.2 h

end Invocation

end TypeLattice.Cli
