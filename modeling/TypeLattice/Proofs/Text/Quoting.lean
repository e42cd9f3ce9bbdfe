import TypeLattice.Proofs.Text.Separator
import TypeLattice.Text.Quoted
import TypeLattice.Text.Basic

/-!
# Quoted text read back

`unescape` reads one character of a literal from its escaped form, whatever stands behind
it: escaped forms are a code in which no form is the beginning of another. So a literal
determines the text that it quotes.

Results:

* `unescape_escape_append`: one character is read back, and nothing behind it;
* `quote_injective`: texts with the same quoted form are the same;
* `quotedChar_injective`, `quotedString_injective`: the same for the two sorts of literal;
* `isControl_eq_false_of_mem_quote`: no control character is left in a quoted form.
-/
namespace TypeLattice.Text

/-! ## The reader of one character -/

/-- The number that a hexadecimal digit counts. -/
def hexValue (c : Char) : Nat := if c.isDigit then c.toNat - '0'.toNat else c.toNat - 'a'.toNat + 10

/-- The number that hexadecimal digits denote. -/
def ofHexDigits (s : List Char) : Nat := s.foldl (fun n c => 16 * n + hexValue c) 0

/-- The character for which a letter stands after a backslash. -/
def unescapeLetter : Char → Char
  | '0' => '\x00'
  | 't' => '\t'
  | 'n' => '\n'
  | 'r' => '\r'
  | c => c

/-- The first character of the text that a literal quotes, and the rest of the literal. -/
def unescape : List Char → Option (Char × List Char)
  | '\\' :: 'u' :: '\x7b' :: rest =>
    some (Char.ofNat (ofHexDigits (cut '\x7d' rest).1), (cut '\x7d' rest).2)
  | '\\' :: letter :: rest => some (unescapeLetter letter, rest)
  | c :: rest => some (c, rest)
  | [] => none

/-! ## Hexadecimal digits -/

theorem hexValue_digitChar : ∀ d < 16, hexValue (Nat.digitChar d) = d := by decide

theorem ofHexDigits_toDigits (n : Nat) : ofHexDigits (Nat.toDigits 16 n) = n := by
  induction n using Nat.strongRecOn with
  | _ n ih =>
    rw [Nat.toDigits_eq_if (by decide)]
    split
    · next h => simp [ofHexDigits, hexValue_digitChar n h]
    · next h =>
      have hq := ih (n / 16) (by omega)
      unfold ofHexDigits at hq ⊢
      rw [List.foldl_append, hq, List.foldl_cons, List.foldl_nil,
        hexValue_digitChar _ (Nat.mod_lt _ (by decide))]
      omega

theorem brace_not_mem_toDigits (n : Nat) : '\x7d' ∉ Nat.toDigits 16 n := by
  induction n using Nat.strongRecOn with
  | _ n ih =>
    rw [Nat.toDigits_eq_if (by decide)]
    split
    · simp
    · next h =>
      have hq := ih (n / 16) (by omega)
      simp [hq]

/-! ## One character -/

/-- The two marks that stand around literals. -/
def IsMark (delimiter : Char) : Prop := delimiter = singleMark ∨ delimiter = doubleMark

theorem unescape_escapeNumber_append (c : Char) (rest : List Char) :
    unescape (escapeNumber c ++ rest) = some (c, rest) := by
  have hs : escapeNumber c ++ rest =
      '\\' :: 'u' :: '\x7b' :: (Nat.toDigits 16 c.toNat ++ '\x7d' :: rest) := by
    simp [escapeNumber]
  rw [hs, unescape, cut_append (brace_not_mem_toDigits _), ofHexDigits_toDigits, Char.ofNat_toNat]

theorem unescape_cons {c : Char} (h : c ≠ '\\') (rest : List Char) :
    unescape (c :: rest) = some (c, rest) := by
  unfold unescape
  split <;> simp_all

theorem unescape_escape_append {delimiter : Char} (hd : IsMark delimiter) (c : Char)
    (rest : List Char) : unescape (escape delimiter c ++ rest) = some (c, rest) := by
  unfold escape
  split
  · next letter hl =>
    unfold escapeLetter? at hl
    split at hl <;> cases hl <;> rfl
  · next hl =>
    have hc : c ≠ '\\' := by intro he; subst he; cases hl
    split
    · next he =>
      subst he
      rcases hd with rfl | rfl <;> rfl
    · split
      · exact unescape_escapeNumber_append c rest
      · exact unescape_cons hc rest

/-- An escaped form begins with a backslash or shows the character, which then is not the
mark that ends the literal. -/
theorem escape_append_ne_mark {delimiter : Char} (hd : IsMark delimiter) (c : Char)
    (s t : List Char) : escape delimiter c ++ s ≠ delimiter :: t := by
  have hb : delimiter ≠ '\\' := by rcases hd with rfl | rfl <;> decide
  unfold escape
  split
  · simp [hb.symm]
  · split
    · simp [hb.symm]
    · split
      · simp [escapeNumber, hb.symm]
      · next hc _ => simp [hc]

/-! ## Whole literals -/

theorem quoted_body_injective {delimiter : Char} (hd : IsMark delimiter) {s s' t t' : List Char}
    (h : s.flatMap (escape delimiter) ++ delimiter :: t =
      s'.flatMap (escape delimiter) ++ delimiter :: t') : s = s' ∧ t = t' := by
  induction s generalizing s' with
  | nil =>
    cases s' with
    | nil => simpa using h
    | cons c' s' =>
      rw [List.flatMap_cons, List.append_assoc] at h
      exact absurd h.symm (escape_append_ne_mark hd c' _ _)
  | cons c s ih =>
    cases s' with
    | nil =>
      rw [List.flatMap_cons, List.append_assoc] at h
      exact absurd h (escape_append_ne_mark hd c _ _)
    | cons c' s' =>
      -- the first characters are read from one text, so they and the rests agree
      rw [List.flatMap_cons, List.flatMap_cons, List.append_assoc, List.append_assoc] at h
      have hu := unescape_escape_append hd c (s.flatMap (escape delimiter) ++ delimiter :: t)
      rw [h, unescape_escape_append hd c', Option.some.injEq, Prod.mk.injEq] at hu
      obtain ⟨rfl, hrest⟩ := hu
      obtain ⟨rfl, ht⟩ := ih hrest.symm
      exact ⟨rfl, ht⟩

theorem quote_injective {delimiter : Char} (hd : IsMark delimiter) {s s' : List Char}
    (h : quote delimiter s = quote delimiter s') : s = s' :=
  (quoted_body_injective hd (List.cons.inj h).2).1

theorem quotedChar_injective {c d : Char} (h : quotedChar c = quotedChar d) : c = d := by
  have := quote_injective (.inl rfl) (String.ofList_injective h)
  exact (List.cons.inj this).1

theorem quotedString_injective {s t : String} (h : quotedString s = quotedString t) : s = t :=
  String.toList_injective (quote_injective (.inr rfl) (String.ofList_injective h))

/-! ## Characters of literals -/

theorem isControl_of_isDigit {c : Char} (h : c.isDigit = true) : isControl c = false := by
  have hc := Char.isDigit_iff_toNat.1 h
  have h0 : '0'.toNat = 48 := rfl
  have h9 : '9'.toNat = 57 := rfl
  simp only [isControl, Bool.or_eq_false_iff, decide_eq_false_iff_not, Bool.and_eq_false_iff]
  omega

theorem isControl_eq_false_of_mem_quote {delimiter c : Char} {s : List Char}
    (hd : isControl delimiter = false) (h : c ∈ quote delimiter s) : isControl c = false := by
  simp only [quote, List.mem_cons, List.mem_append, List.mem_flatMap, List.not_mem_nil,
    or_false] at h
  obtain rfl | ⟨d, -, hc⟩ | rfl := h
  · exact hd
  · exact isControl_eq_false_of_mem_escape hd hc
  · exact hd

theorem isControl_eq_false_of_mem_quotedString {s : String} {c : Char}
    (h : c ∈ (quotedString s).toList) : isControl c = false := by
  rw [quotedString, String.toList_ofList] at h
  exact isControl_eq_false_of_mem_quote (by decide) h

theorem any_isControl_quotedString (s : String) :
    (quotedString s).toList.any isControl = false := by
  rw [List.any_eq_false]
  intro c hc
  simp [isControl_eq_false_of_mem_quotedString hc]

theorem any_isControl_quotedChar (c : Char) : (quotedChar c).toList.any isControl = false := by
  rw [quotedChar, String.toList_ofList, List.any_eq_false]
  intro d hd
  simp [isControl_eq_false_of_mem_quote (by decide) hd]

theorem any_isControl_decimal (n : Nat) : (decimal n).toList.any isControl = false := by
  rw [decimal, String.toList_ofList, List.any_eq_false]
  intro c hc
  have hdigit : c.isDigit = true := Nat.isDigit_of_mem_toDigits (by decide) (by decide) hc
  simp [isControl_of_isDigit hdigit]

end TypeLattice.Text
