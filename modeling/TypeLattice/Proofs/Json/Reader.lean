import Mathlib.Data.List.TakeWhile
import TypeLattice.Proofs.Json.Grammar
import TypeLattice.Text.Basic

/-!
# The reader of JSON

`read` reads a text as a value, from left to right. It goes by the first character of each
value, keeps no more than one level of a container in view, and refuses whatever the grammar
does not spell. A text is never longer than the reader is patient: its length bounds how deep
values nest, how many parts a container has and how many characters a string.

Results:

* `read_eq_some_iff`: the reader gives a value exactly if the text spells it;
* `Spells.unique`: so a text spells one value at the most.
-/
namespace TypeLattice.Json

variable {α : Type}

/-! ## The reader -/

/-- What is left of a text behind its leading spaces. -/
def skip (s : List Char) : List Char := s.dropWhile isSpace

/-- Reads a code unit behind its backslash and `u`. -/
def readUnit : List Char → Option (Nat × List Char)
  | '\\' :: 'u' :: a :: b :: c :: d :: rest => (codeUnit? a b c d).map (·, rest)
  | _ => none

/-- Reads the second half of a character. -/
def readLow (high : Nat) (s : List Char) : Option (Char × List Char) :=
  match readUnit s with
  | some (low, rest) => if isLow low then some (ofHalves high low, rest) else none
  | none => none

/-- Reads one character of a string. -/
def readLetter (s : List Char) : Option (Char × List Char) :=
  match readUnit s with
  | some (u, rest) =>
    if isHigh u then readLow u rest else if isLow u then none else some (Char.ofNat u, rest)
  | none =>
    match s with
    | '\\' :: l :: rest => (named? l).map (·, rest)
    | c :: rest => if isPlain c then some (c, rest) else none
    | [] => none

/-- Reads the characters of a string up to its closing quote. -/
def readLetters : Nat → List Char → Option (List Char × List Char)
  | 0, _ => none
  | _ + 1, [] => none
  | n + 1, c :: s =>
    if c = '\x22' then some ([], s)
    else
      match readLetter (c :: s) with
      | some (d, rest) => (readLetters n rest).map fun (ds, rest) => (d :: ds, rest)
      | none => none

/-- Reads a string from quote to quote. -/
def readQuoted : List Char → Option (String × List Char)
  | '\x22' :: s => (readLetters s.length s).map fun (cs, rest) => (String.ofList cs, rest)
  | _ => none

instance (w : List Char) : Decidable (Numeral w) :=
  decidable_of_iff (w ≠ [] ∧ w.all Char.isDigit = true ∧ (w.head? = some '0' → w = ['0']))
    ⟨fun h => ⟨h.1, List.all_eq_true.1 h.2.1, h.2.2⟩,
      fun h => ⟨h.1, List.all_eq_true.2 h.2, h.3⟩⟩

/-- Reads all digits at the beginning of a text. -/
def readNumeral (s : List Char) : Option (Json × List Char) :=
  let w := s.takeWhile Char.isDigit
  if Numeral w then some (number (Nat.ofDigitChars 10 w 0), s.dropWhile Char.isDigit) else none

/-- The words with what they stand for. -/
def words : List (List Char × Json) :=
  [("null".toList, null), ("true".toList, bool true), ("false".toList, bool false)]

/-- Reads a word. -/
def readWord (s : List Char) : Option (Json × List Char) :=
  words.findSome? fun (w, v) => (Text.after? w s).map (v, ·)

/-- Reads a part with the spaces around it. -/
def readSpaced (part : List Char → Option (α × List Char)) (s : List Char) :
    Option (α × List Char) :=
  (part (skip s)).map fun (a, rest) => (a, skip rest)

/-- Reads parts up to the closing mark. -/
def readListed (part : List Char → Option (α × List Char)) (close : Char) :
    Nat → List Char → Option (List α × List Char)
  | 0, _ => none
  | n + 1, s =>
    match readSpaced part s with
    | some (a, c :: rest) =>
      if c = close then some ([a], rest)
      else if c = ',' then
        (readListed part close n rest).map fun (as, rest) => (a :: as, rest)
      else none
    | _ => none

/-- Reads a container behind its opening mark. -/
def readContainer (part : List Char → Option (α × List Char)) (close : Char) (s : List Char) :
    Option (List α × List Char) :=
  match skip s with
  | c :: rest => if c = close then some ([], rest) else readListed part close s.length s
  | [] => none

/-- Reads a member of an object. -/
def readMember (value : List Char → Option (Json × List Char)) (s : List Char) :
    Option ((String × Json) × List Char) := do
  let (key, rest) ← readQuoted s
  match skip rest with
  | ':' :: rest =>
    let (v, rest) ← value (skip rest)
    return ((key, v), rest)
  | _ => none

/-- Reads a value that nests no deeper than a bound. -/
def readValue : Nat → List Char → Option (Json × List Char)
  | 0, _ => none
  | _ + 1, [] => none
  | n + 1, c :: s =>
    if c = '\x22' then (readQuoted (c :: s)).map fun (t, rest) => (string t, rest)
    else if c = '[' then
      (readContainer (readValue n) ']' s).map fun (items, rest) => (array items, rest)
    else if c = '\x7b' then
      (readContainer (readMember (readValue n)) '\x7d' s).map
        fun (members, rest) => (object members, rest)
    else if c.isDigit then readNumeral (c :: s)
    else readWord (c :: s)

/-- Reads a whole text. -/
def read (text : String) : Option Json :=
  match readSpaced (readValue text.toList.length) text.toList with
  | some (v, []) => some v
  | _ => none

/-! ## Readers and what they read -/

/-- What comes out of the reader was spelled at the beginning of the text. -/
def Sound (reader : List Char → Option (α × List Char)) (part : List Char → α → Prop) : Prop :=
  ∀ s a rest, reader s = some (a, rest) → ∃ w, s = w ++ rest ∧ part w a

/-- No digit follows, so that a numeral in front of the text is at its end. -/
def Ends (rest : List Char) : Prop := ∀ c, rest.head? = some c → c.isDigit = false

/-- A part that is no longer than a bound is read as a whole. -/
def Complete (reader : List Char → Option (α × List Char)) (part : List Char → α → Prop)
    (bound : Nat) : Prop :=
  ∀ w a, part w a → w.length ≤ bound → ∀ rest, Ends rest → reader (w ++ rest) = some (a, rest)

/-- A part begins with a character that is neither a space nor the closing mark. -/
def Opens (part : List Char → α → Prop) (close : Char) : Prop :=
  ∀ w a, part w a → ∃ c t, w = c :: t ∧ isSpace c = false ∧ c ≠ close

theorem isDigit_of_isSpace {c : Char} (h : isSpace c = true) : c.isDigit = false := by
  simp only [isSpace, Bool.or_eq_true, decide_eq_true_eq] at h
  rcases h with ((rfl | rfl) | rfl) | rfl <;> rfl

theorem ends_cons {c : Char} (h : c.isDigit = false) (s : List Char) : Ends (c :: s) := by
  intro d hd
  cases hd
  exact h

theorem ends_spaces_append (g : Spaces) {s : List Char} (h : Ends s) : Ends (g.chars ++ s) := by
  obtain ⟨chars, space⟩ := g
  cases chars with
  | nil => exact h
  | cons c t =>
    exact ends_cons (isDigit_of_isSpace (List.all_eq_true.1 space c List.mem_cons_self)) _

/-! ## Spaces -/

theorem exists_spaces_skip (s : List Char) : ∃ g : Spaces, s = g.chars ++ skip s :=
  ⟨⟨s.takeWhile isSpace, List.all_takeWhile⟩, List.takeWhile_append_dropWhile.symm⟩

theorem skip_spaces_append (g : Spaces) (s : List Char) : skip (g.chars ++ s) = skip s :=
  List.dropWhile_append_of_pos (List.all_eq_true.1 g.space)

theorem skip_cons {c : Char} (h : isSpace c = false) (s : List Char) : skip (c :: s) = c :: s :=
  List.dropWhile_cons_of_neg (by simp [h])

/-! ## Strings -/

theorem readUnit_eq_some_iff {s rest : List Char} {u : Nat} : readUnit s = some (u, rest) ↔
    ∃ a b c d, s = '\\' :: 'u' :: a :: b :: c :: d :: rest ∧ codeUnit? a b c d = some u := by
  unfold readUnit
  split
  · simp
    grind
  · next h => simp_all

theorem readUnit_cons_of_ne {c : Char} (h : c ≠ '\\') (s : List Char) :
    readUnit (c :: s) = none := by
  unfold readUnit
  split <;> simp_all

theorem readUnit_named {l c : Char} (h : named? l = some c) (s : List Char) :
    readUnit ('\\' :: l :: s) = none := by
  have hl : l ≠ 'u' := by rintro rfl; cases h
  unfold readUnit
  split <;> simp_all

theorem sound_readLetter : Sound readLetter Letter := by
  intro s c rest h
  unfold readLetter at h
  split at h
  · next u t hu =>
    obtain ⟨a, b, x, d, rfl, hcode⟩ := readUnit_eq_some_iff.1 hu
    split at h
    · next hh =>
      unfold readLow at h
      split at h
      · next u' t' hu' =>
        obtain ⟨a', b', x', d', rfl, hcode'⟩ := readUnit_eq_some_iff.1 hu'
        split at h
        · next hl =>
          simp only [Option.some.injEq, Prod.mk.injEq] at h
          obtain ⟨rfl, rfl⟩ := h
          exact ⟨_, rfl, .halves hcode hh hcode' hl⟩
        · cases h
      · cases h
    · next hh =>
      split at h
      · cases h
      · next hl =>
        cases h
        exact ⟨_, rfl, .code hcode (by simpa using hh) (by simpa using hl)⟩
  · split at h
    · next l t _ =>
      obtain ⟨d, hd, heq⟩ := Option.map_eq_some_iff.1 h
      cases heq
      exact ⟨['\\', l], rfl, .named hd⟩
    · next d t _ _ =>
      split at h
      · next hp =>
        cases h
        exact ⟨[c], rfl, .plain hp⟩
      · cases h
    · cases h

theorem readLetter_append {w : List Char} {c : Char} (h : Letter w c) (rest : List Char) :
    readLetter (w ++ rest) = some (c, rest) := by
  cases h with
  | plain h =>
    have hc : c ≠ '\\' := by rintro rfl; cases h
    simp only [readLetter, List.singleton_append, readUnit_cons_of_ne hc]
    split <;> simp_all
  | named h => simp [readLetter, readUnit_named h, h]
  | code h hh hl => simp [readLetter, readUnit, h, hh, hl]
  | halves h hu h' hu' => simp [readLetter, readUnit, readLow, h, hu, h', hu']

theorem exists_head_letter {w : List Char} {c : Char} (h : Letter w c) :
    ∃ d t, w = d :: t ∧ d ≠ '\x22' := by
  cases h with
  | plain h =>
    refine ⟨c, [], rfl, ?_⟩
    rintro rfl
    cases h
  | named h => exact ⟨_, _, rfl, by decide⟩
  | code h hh hl => exact ⟨_, _, rfl, by decide⟩
  | halves h hu h' hu' => exact ⟨_, _, rfl, by decide⟩

theorem readLetters_sound {n : Nat} {s cs rest : List Char}
    (h : readLetters n s = some (cs, rest)) : ∃ t, s = t ++ '\x22' :: rest ∧ Letters t cs := by
  induction n generalizing s cs with
  | zero => cases h
  | succ n ih =>
    cases s with
    | nil => cases h
    | cons c s =>
      rw [readLetters] at h
      split at h
      · next hc =>
        cases h
        exact ⟨[], by rw [hc]; rfl, .nil⟩
      split at h
      · next d s' hd =>
        obtain ⟨⟨ds, r⟩, hds, heq⟩ := Option.map_eq_some_iff.1 h
        cases heq
        obtain ⟨w, hw, hletter⟩ := sound_readLetter _ _ _ hd
        obtain ⟨t, rfl, ht⟩ := ih hds
        exact ⟨w ++ t, by rw [hw, List.append_assoc], .cons hletter ht⟩
      · cases h

theorem readLetters_append {t cs : List Char} (h : Letters t cs) (rest : List Char) :
    ∀ n, t.length < n → readLetters n (t ++ '\x22' :: rest) = some (cs, rest) := by
  induction h with
  | nil =>
    intro n hn
    cases n with
    | zero => omega
    | succ n => rfl
  | @cons w c t cs hw _ ih =>
    intro n hn
    cases n with
    | zero => omega
    | succ n =>
      obtain ⟨d, w', rfl, hd⟩ := exists_head_letter hw
      have hread := readLetter_append hw (t ++ '\x22' :: rest)
      have ht := ih n (by simp at hn; omega)
      rw [List.append_assoc]
      rw [List.cons_append] at hread ⊢
      simp [readLetters, hd, hread, ht]

theorem sound_readQuoted : Sound readQuoted Quoted := by
  intro s k rest h
  unfold readQuoted at h
  split at h
  · obtain ⟨⟨cs, r⟩, hcs, heq⟩ := Option.map_eq_some_iff.1 h
    cases heq
    obtain ⟨t, rfl, ht⟩ := readLetters_sound hcs
    exact ⟨_, by simp, .mk ht⟩
  · cases h

theorem readQuoted_append {w : List Char} {k : String} (h : Quoted w k) (rest : List Char) :
    readQuoted (w ++ rest) = some (k, rest) := by
  obtain ⟨ht⟩ := h
  simp [readQuoted, readLetters_append ht]

/-! ## Numerals and words -/

theorem sound_readNumeral : Sound readNumeral Value := by
  intro s v rest h
  simp only [readNumeral] at h
  split at h
  · next hn =>
    cases h
    exact ⟨_, List.takeWhile_append_dropWhile.symm, .number hn⟩
  · cases h

theorem readNumeral_append {w rest : List Char} (h : Numeral w) (he : Ends rest) :
    readNumeral (w ++ rest) = some (number (Nat.ofDigitChars 10 w 0), rest) := by
  have hr : rest.takeWhile Char.isDigit = [] ∧ rest.dropWhile Char.isDigit = rest := by
    cases rest with
    | nil => simp
    | cons c t => simp [he c rfl]
  have ht : (w ++ rest).takeWhile Char.isDigit = w := by
    rw [List.takeWhile_append_of_pos h.digits, hr.1, List.append_nil]
  have hd : (w ++ rest).dropWhile Char.isDigit = rest := by
    rw [List.dropWhile_append_of_pos h.digits, hr.2]
  simp only [readNumeral, ht, hd, if_pos h]

theorem sound_readWord : Sound readWord Value := by
  intro s v rest h
  obtain ⟨⟨w, u⟩, hmem, hw⟩ := List.exists_of_findSome?_eq_some h
  obtain ⟨r, hr, heq⟩ := Option.map_eq_some_iff.1 hw
  cases heq
  refine ⟨w, Text.after?_eq_some_iff.1 hr, ?_⟩
  simp only [words, List.mem_cons, Prod.mk.injEq, List.not_mem_nil, or_false] at hmem
  rcases hmem with ⟨rfl, rfl⟩ | ⟨rfl, rfl⟩ | ⟨rfl, rfl⟩
  · exact .null
  · exact .bool true
  · exact .bool false

/-! ## Containers -/

theorem readSpaced_sound {part : List Char → α → Prop}
    {reader : List Char → Option (α × List Char)} (hr : Sound reader part) :
    Sound (readSpaced reader) (Spaced part) := by
  intro s a rest h
  obtain ⟨⟨b, s'⟩, hb, heq⟩ := Option.map_eq_some_iff.1 h
  cases heq
  obtain ⟨g, hg⟩ := exists_spaces_skip s
  obtain ⟨w, hw, hp⟩ := hr _ _ _ hb
  obtain ⟨g', hg'⟩ := exists_spaces_skip s'
  refine ⟨_, ?_, .mk g hp g'⟩
  rw [List.append_assoc, List.append_assoc, ← hg', ← hw, ← hg]

theorem readSpaced_append {part : List Char → α → Prop}
    {reader : List Char → Option (α × List Char)} {bound : Nat} (hr : Complete reader part bound)
    {close : Char} (ho : Opens part close) {t : List Char} {a : α} (h : Spaced part t a)
    (hb : t.length ≤ bound) (rest : List Char) (he : Ends rest) (hs : skip rest = rest) :
    readSpaced reader (t ++ rest) = some (a, rest) := by
  obtain ⟨g, hp, g'⟩ := h
  obtain ⟨c, w, rfl, hc, -⟩ := ho _ _ hp
  simp only [List.length_append] at hb
  have hread := hr _ _ hp (by omega) (g'.chars ++ rest) (ends_spaces_append g' he)
  rw [List.cons_append] at hread
  simp [readSpaced, skip_spaces_append, skip_cons hc, hread, hs]

theorem readListed_sound {part : List Char → α → Prop}
    {reader : List Char → Option (α × List Char)} (hr : Sound reader part) {close : Char} {n : Nat}
    {s rest : List Char} {as : List α} (h : readListed reader close n s = some (as, rest)) :
    ∃ t, s = t ++ close :: rest ∧ Listed part t as := by
  induction n generalizing s as with
  | zero => cases h
  | succ n ih =>
    unfold readListed at h
    split at h
    · next a c s' ha =>
      obtain ⟨t, rfl, ht⟩ := readSpaced_sound hr _ _ _ ha
      split at h
      · next hc =>
        cases h
        exact ⟨t, by rw [hc], .one ht⟩
      split at h
      · next hc =>
        obtain ⟨⟨bs, r⟩, hbs, heq⟩ := Option.map_eq_some_iff.1 h
        cases heq
        obtain ⟨u, rfl, hu⟩ := ih hbs
        exact ⟨t ++ ',' :: u, by rw [hc]; simp, .more ht hu⟩
      · cases h
    · cases h

/-- The marks that close a container. -/
def IsClose (c : Char) : Prop := c = ']' ∨ c = '\x7d'

theorem IsClose.ends {c : Char} (h : IsClose c) (s : List Char) : Ends (c :: s) := by
  rcases h with rfl | rfl <;> exact ends_cons rfl s

theorem IsClose.skip {c : Char} (h : IsClose c) (s : List Char) : skip (c :: s) = c :: s := by
  rcases h with rfl | rfl <;> exact skip_cons rfl s

theorem readListed_append {part : List Char → α → Prop}
    {reader : List Char → Option (α × List Char)} {bound : Nat} (hr : Complete reader part bound)
    {close : Char} (hclose : IsClose close) (ho : Opens part close) (rest : List Char)
    {t : List Char} {as : List α} (h : Listed part t as) : t.length ≤ bound → ∀ n, t.length < n →
      readListed reader close n (t ++ close :: rest) = some (as, rest) := by
  induction h with
  | one h =>
    intro hb n hn
    have hread := readSpaced_append hr ho h hb _ (hclose.ends rest) (hclose.skip rest)
    cases n with
    | zero => omega
    | succ n => simp [readListed, hread]
  | @more t u a as h _ ih =>
    intro hb n hn
    simp only [List.length_append, List.length_cons] at hb hn
    have hread := readSpaced_append hr ho h (by omega) (',' :: (u ++ close :: rest))
      (ends_cons rfl _) (skip_cons rfl _)
    have hcomma : ',' ≠ close := by rcases hclose with rfl | rfl <;> decide
    cases n with
    | zero => omega
    | succ n => simp [readListed, hread, hcomma, ih (by omega) n (by omega)]

theorem readContainer_sound {part : List Char → α → Prop}
    {reader : List Char → Option (α × List Char)} (hr : Sound reader part) {close : Char}
    {s rest : List Char} {as : List α} (h : readContainer reader close s = some (as, rest)) :
    (as = [] ∧ ∃ g : Spaces, s = g.chars ++ close :: rest) ∨
      ∃ t, s = t ++ close :: rest ∧ Listed part t as := by
  unfold readContainer at h
  split at h
  · next c t hc =>
    split at h
    · next hclose =>
      cases h
      obtain ⟨g, hg⟩ := exists_spaces_skip s
      exact .inl ⟨rfl, g, by rw [← hclose, ← hc, ← hg]⟩
    · exact .inr (readListed_sound hr h)
  · cases h

theorem readContainer_spaces (reader : List Char → Option (α × List Char)) {close : Char}
    (hclose : IsClose close) (g : Spaces) (rest : List Char) :
    readContainer reader close (g.chars ++ close :: rest) = some ([], rest) := by
  simp [readContainer, skip_spaces_append, hclose.skip]

/-- The first part of a list is not taken for the closing mark. -/
theorem exists_head_skip_listed {part : List Char → α → Prop} {close : Char}
    (ho : Opens part close) {t : List Char} {as : List α} (h : Listed part t as)
    (rest : List Char) : ∃ c s, skip (t ++ rest) = c :: s ∧ c ≠ close := by
  have spaced : ∀ {u : List Char} {a : α}, Spaced part u a → ∀ r,
      ∃ c s, skip (u ++ r) = c :: s ∧ c ≠ close := by
    intro u a hu r
    obtain ⟨g, hp, g'⟩ := hu
    obtain ⟨c, w, rfl, hc, hne⟩ := ho _ _ hp
    exact ⟨c, w ++ (g'.chars ++ r), by simp [skip_spaces_append, skip_cons hc], hne⟩
  cases h with
  | one h => exact spaced h rest
  | more h _ =>
    rw [List.append_assoc]
    exact spaced h _

theorem readContainer_append {part : List Char → α → Prop}
    {reader : List Char → Option (α × List Char)} {bound : Nat} (hr : Complete reader part bound)
    {close : Char} (hclose : IsClose close) (ho : Opens part close) (rest : List Char)
    {t : List Char} {as : List α} (h : Listed part t as) (hb : t.length ≤ bound) :
    readContainer reader close (t ++ close :: rest) = some (as, rest) := by
  obtain ⟨c, s, hs, hne⟩ := exists_head_skip_listed ho h (close :: rest)
  rw [readContainer, hs]
  simp only [if_neg hne]
  exact readListed_append hr hclose ho rest h hb _ (by simp)

theorem sound_readMember {reader : List Char → Option (Json × List Char)}
    (hr : Sound reader Value) : Sound (readMember reader) (Member Value) := by
  intro s m rest h
  simp only [readMember, Option.bind_eq_bind, Option.bind_eq_some_iff] at h
  obtain ⟨⟨key, s'⟩, hk, h⟩ := h
  split at h
  · next t ht =>
    simp only [Option.bind_eq_some_iff, Option.pure_def, Option.some.injEq, Prod.mk.injEq] at h
    obtain ⟨⟨v, r⟩, hv, rfl, rfl⟩ := h
    obtain ⟨w, rfl, hw⟩ := sound_readQuoted _ _ _ hk
    obtain ⟨g, hg⟩ := exists_spaces_skip s'
    obtain ⟨g', hg'⟩ := exists_spaces_skip t
    obtain ⟨u, hu, hval⟩ := hr _ _ _ hv
    refine ⟨_, ?_, .mk hw g g' hval⟩
    rw [hg, ht, hg', hu]
    simp
  · cases h

theorem complete_readMember {reader : List Char → Option (Json × List Char)} {bound : Nat}
    (hr : Complete reader Value bound) (ho : Opens Value ']') :
    Complete (readMember reader) (Member Value) bound := by
  intro w m h hb rest he
  obtain ⟨hk, g, g', hv⟩ := h
  obtain ⟨c, t, rfl, hcs, -⟩ := ho _ _ hv
  simp only [List.length_append, List.length_cons] at hb
  have hval := hr _ _ hv (by simp; omega) rest he
  have hcolon : isSpace ':' = false := rfl
  rw [List.cons_append] at hval
  simp [readMember, readQuoted_append hk, skip_spaces_append, skip_cons hcolon, skip_cons hcs, hval]

theorem opens_member : Opens (Member Value) '\x7d' := by
  intro w m h
  obtain ⟨hk, g, g', hv⟩ := h
  obtain ⟨ht⟩ := hk
  exact ⟨_, _, rfl, rfl, by decide⟩

/-! ## Values -/

theorem opens_value : Opens Value ']' := by
  intro w v h
  cases h with
  | null => exact ⟨_, _, rfl, rfl, by decide⟩
  | bool b => cases b <;> exact ⟨_, _, rfl, rfl, by decide⟩
  | number h =>
    obtain ⟨c, t, rfl⟩ := List.exists_cons_of_ne_nil h.ne_nil
    have hc := h.digits c List.mem_cons_self
    refine ⟨c, t, rfl, ?_, by rintro rfl; cases hc⟩
    by_contra hs
    rw [isDigit_of_isSpace (by simpa using hs)] at hc
    cases hc
  | string h =>
    obtain ⟨ht⟩ := h
    exact ⟨_, _, rfl, rfl, by decide⟩
  | emptyArray inner => exact ⟨_, _, rfl, rfl, by decide⟩
  | array h => exact ⟨_, _, rfl, rfl, by decide⟩
  | emptyObject inner => exact ⟨_, _, rfl, rfl, by decide⟩
  | object h => exact ⟨_, _, rfl, rfl, by decide⟩

theorem sound_readValue (n : Nat) : Sound (readValue n) Value := by
  induction n with
  | zero => intro s v rest h; cases h
  | succ n ih =>
    intro s v rest h
    cases s with
    | nil => cases h
    | cons c s =>
      simp only [readValue] at h
      split at h
      · obtain ⟨⟨t, r⟩, ht, heq⟩ := Option.map_eq_some_iff.1 h
        cases heq
        obtain ⟨w, hw, hq⟩ := sound_readQuoted _ _ _ ht
        exact ⟨w, hw, .string hq⟩
      split at h
      · next hc =>
        obtain ⟨⟨items, r⟩, hi, heq⟩ := Option.map_eq_some_iff.1 h
        cases heq
        rcases readContainer_sound ih hi with ⟨rfl, g, rfl⟩ | ⟨t, rfl, ht⟩
        · exact ⟨_, by rw [hc]; simp, .emptyArray g⟩
        · exact ⟨_, by rw [hc]; simp, .array ht⟩
      split at h
      · next hc =>
        obtain ⟨⟨members, r⟩, hm, heq⟩ := Option.map_eq_some_iff.1 h
        cases heq
        rcases readContainer_sound (sound_readMember ih) hm with ⟨rfl, g, rfl⟩ | ⟨t, rfl, ht⟩
        · exact ⟨_, by rw [hc]; simp, .emptyObject g⟩
        · exact ⟨_, by rw [hc]; simp, .object ht⟩
      split at h
      · exact sound_readNumeral _ _ _ h
      · exact sound_readWord _ _ _ h

theorem complete_readValue (n : Nat) : Complete (readValue n) Value n := by
  induction n with
  | zero =>
    intro w v h hw
    obtain ⟨c, t, rfl, -, -⟩ := opens_value w v h
    cases hw
  | succ n ih =>
    intro w v h hw rest he
    cases h with
    | null => simp [readValue, readWord, words, Text.after?]
    | bool b => cases b <;> simp [readValue, readWord, words, Text.after?, render]
    | number h =>
      obtain ⟨c, t, rfl⟩ := List.exists_cons_of_ne_nil h.ne_nil
      have hc := h.digits c List.mem_cons_self
      have hne : c ≠ '\x22' ∧ c ≠ '[' ∧ c ≠ '\x7b' := by
        refine ⟨?_, ?_, ?_⟩ <;> (rintro rfl; cases hc)
      have hn := readNumeral_append h he
      rw [List.cons_append] at hn ⊢
      simp [readValue, hne, hc, hn]
    | string h =>
      have hq := readQuoted_append h rest
      obtain ⟨ht⟩ := h
      simp only [List.cons_append] at hq ⊢
      simp only [readValue, hq, if_true, Option.map_some]
    | emptyArray inner =>
      have hc := readContainer_spaces (readValue n) (.inl rfl : IsClose ']') inner rest
      simp [readValue, hc]
    | array h =>
      have hc := readContainer_append ih (.inl rfl) opens_value rest h (by simp at hw; omega)
      simp [readValue, hc]
    | emptyObject inner =>
      have hc := readContainer_spaces (readMember (readValue n)) (.inr rfl) inner rest
      simp [readValue, hc]
    | object h =>
      have hc := readContainer_append (complete_readMember ih opens_value) (.inr rfl) opens_member
        rest h (by simp at hw; omega)
      simp [readValue, hc]

/-! ## Whole texts -/

/-- The reader gives a value exactly if the text spells it. -/
theorem read_eq_some_iff {text : String} {v : Json} : read text = some v ↔ Spells text v := by
  unfold read Spells
  generalize text.toList = s
  constructor
  · intro h
    split at h
    · next u hu =>
      cases h
      obtain ⟨t, rfl, ht⟩ := readSpaced_sound (sound_readValue _) _ _ _ hu
      rwa [List.append_nil]
    · cases h
  · intro h
    have hread := readSpaced_append (complete_readValue s.length) opens_value h (Nat.le_refl _)
      [] nofun rfl
    rw [List.append_nil] at hread
    rw [hread]

theorem Spells.unique {text : String} {v w : Json} (hv : Spells text v) (hw : Spells text w) :
    v = w := by
  have h := read_eq_some_iff.2 hv
  rw [read_eq_some_iff.2 hw] at h
  exact (Option.some.inj h).symm

end TypeLattice.Json
