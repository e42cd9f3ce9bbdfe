import TypeLattice.Cli.Invocation

/-!
# Words that ask for more log records

More log records are asked for by the name of the option or by its letter, which may be repeated
within a word. Each such word adds to the verbosity as often as it names the option, up to the
largest; it takes nothing else and changes nothing else, before a command and behind it.

Results:

* `Reading.takeWord_louder`: one such word adds its count;
* `Reading.foldlM_takeWord_louder`: several add theirs;
* `Invocation.ofRest_louder`: before a command they come to the verbosity that it starts from.
-/
namespace TypeLattice.Cli

/-- A word that asks for more log records: the option by its name, or its letter once and then
some more times. -/
inductive Louder where
  | named
  | letters (more : Nat)
  deriving DecidableEq

namespace Louder

/-- The word. -/
def text : Louder → String
  | named => "--verbose"
  | letters more => String.ofList ('-' :: 'v' :: List.replicate more 'v')

/-- How many times the word names the option. -/
def count : Louder → Nat
  | named => 1
  | letters more => more + 1

/-- How many times the words name the option. -/
def total : List Louder → Nat
  | [] => 0
  | m :: ms => m.count + total ms

theorem ofString_text (m : Louder) : Word.ofString m.text =
    match m with
    | named => .long "verbose" none
    | letters more => .cluster ('v' :: List.replicate more 'v') := by
  cases m with
  | named => rfl
  | letters more =>
    rw [text, Word.ofString, String.toList_ofList]
    rfl

theorem total_replicate (m : Louder) (n : Nat) : total (List.replicate n m) = n * m.count := by
  induction n with
  | zero => rw [Nat.zero_mul]; rfl
  | succ n ih => rw [List.replicate_succ, total, ih, Nat.succ_mul, Nat.add_comm]

end Louder

/-! ## One word -/

namespace Reading

/-- The reading after more log records were asked for that many times. -/
def louder (n : Nat) (r : Reading) : Reading :=
  { r with verbosity := min mostVerbose (r.verbosity + n) }

/-- The next word may be an option, and none before it waits for a value. -/
structure IsOpen (r : Reading) : Prop where
  literal : r.literal = false
  pending : r.pending = .nothing
  verbosity : r.verbosity ≤ mostVerbose

theorem isOpen_empty : IsOpen {} := ⟨rfl, rfl, Nat.zero_le _⟩

theorem IsOpen.louder {r : Reading} (h : r.IsOpen) (n : Nat) : (r.louder n).IsOpen :=
  ⟨h.literal, h.pending, Nat.min_le_left ..⟩

theorem IsOpen.settle {r : Reading} (h : r.IsOpen) : r.settle = .ok r := by
  rw [Reading.settle, h.pending]

theorem IsOpen.takeWord_plain {scope : Scope} {r : Reading} (h : r.IsOpen) {word : String}
    (hw : Word.ofString word = .plain word) : r.takeWord scope word = r.takeItself scope word := by
  rw [takeWord, h.literal, hw]
  simp only [Bool.false_eq_true, if_false, takePlain, h.pending]

theorem IsOpen.takeWord_long {scope : Scope} {r : Reading} (h : r.IsOpen) {word name : String}
    {option : Switch} (hw : Word.ofString word = .long name none)
    (hk : (Switch.ofName? name).filter scope.knows = some option) :
    r.takeWord scope word = r.takeSwitch option := by
  rw [takeWord, h.literal, hw]
  simp only [Bool.false_eq_true, if_false, hk, takeLong, h.settle]
  rfl

theorem louder_zero {r : Reading} (h : r.IsOpen) : r.louder 0 = r := by
  rw [louder, Nat.add_zero, Nat.min_eq_right h.verbosity]

theorem louder_louder (m n : Nat) (r : Reading) : (r.louder m).louder n = r.louder (m + n) := by
  have hmin : min mostVerbose (min mostVerbose (r.verbosity + m) + n) =
      min mostVerbose (r.verbosity + (m + n)) := by omega
  rw [louder, louder, louder, hmin]

theorem takeLetter_louder {scope : Scope} {r : Reading} (h : r.IsOpen) :
    takeLetter scope r 'v' = .ok (r.louder 1) := by
  have hknown : (Switch.ofLetter? 'v').filter scope.knows = some .verbose := by cases scope <;> rfl
  rw [takeLetter, hknown]
  simp only [h.settle]
  rfl

theorem foldlM_takeLetter_louder {scope : Scope} {r : Reading} (h : r.IsOpen) (n : Nat) :
    (List.replicate n 'v').foldlM (takeLetter scope) r = .ok (r.louder n) := by
  induction n generalizing r with
  | zero =>
    rw [louder_zero h]
    rfl
  | succ n ih =>
    rw [List.replicate_succ, List.foldlM_cons, takeLetter_louder h]
    show (List.replicate n 'v').foldlM (takeLetter scope) (r.louder 1) = _
    rw [ih (h.louder 1), louder_louder, Nat.add_comm]

theorem takeWord_louder (scope : Scope) {r : Reading} (h : r.IsOpen) (m : Louder) :
    takeWord scope r m.text = .ok (r.louder m.count) := by
  cases m with
  | named =>
    have hknown : (Switch.ofName? "verbose").filter scope.knows = some .verbose := by
      cases scope <;> rfl
    rw [h.takeWord_long (Louder.ofString_text .named) hknown]
    rfl
  | letters more =>
    rw [takeWord, h.literal, Louder.ofString_text]
    exact foldlM_takeLetter_louder h (more + 1)

/-! ## Several words -/

theorem foldlM_takeWord_louder (scope : Scope) {r : Reading} (h : r.IsOpen) (ms : List Louder) :
    (ms.map Louder.text).foldlM (takeWord scope) r = .ok (r.louder (Louder.total ms)) := by
  induction ms generalizing r with
  | nil =>
    rw [Louder.total, louder_zero h]
    rfl
  | cons m ms ih =>
    rw [List.map_cons, List.foldlM_cons, takeWord_louder scope h]
    show (ms.map Louder.text).foldlM (takeWord scope) (r.louder m.count) = _
    rw [ih (h.louder _), louder_louder, Louder.total]

end Reading

namespace Invocation

theorem ofRest_louder {r : Reading} (h : r.IsOpen) (ms : List Louder) (words : List String) :
    ofRest r (ms.map Louder.text ++ words) = ofRest (r.louder (Louder.total ms)) words := by
  induction ms generalizing r with
  | nil => rw [Louder.total, Reading.louder_zero h, List.map_nil, List.nil_append]
  | cons m ms ih =>
    have hm : ofRest r (m.text :: (ms.map Louder.text ++ words)) =
        ofRest (r.louder m.count) (ms.map Louder.text ++ words) := by
      have hw := Reading.takeWord_louder .program h m
      rw [ofRest, h.literal, Louder.ofString_text]
      cases m <;> simp only [hw] <;> rfl
    rw [List.map_cons, List.cons_append, hm, ih (h.louder _), Reading.louder_louder, Louder.total]

/-- A command behind such words starts from the verbosity that they come to. -/
theorem ofWords_louder_command (ms : List Louder) {word : String}
    (h : Word.ofString word = .plain word) (words : List String) :
    ofWords (ms.map Louder.text ++ word :: words) =
      ofCommand (Reading.louder (Louder.total ms) {}) word words := by
  rw [ofWords, ofRest_louder Reading.isOpen_empty, ofRest, h]
  rfl

end Invocation

end TypeLattice.Cli
