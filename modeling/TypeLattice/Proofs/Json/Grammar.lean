import TypeLattice.Json

/-!
# The grammar of JSON

Which texts spell a value, said without a printer or a reader: words, numerals, quoted
strings with any of the escapes, and containers whose parts have commas between them, with
spaces wherever they may stand. Numbers are natural here, so a numeral is a row of digits.

Results:

* `spells_compact`, `spells_pretty`: what is printed in either style spells the value;
* `value_print`: so does any other layout that adds nothing but spaces.
-/
namespace TypeLattice.Json

/-! ## Spaces -/

/-- The characters that may stand between tokens. -/
def isSpace (c : Char) : Bool := c = ' ' || c = '\t' || c = '\n' || c = '\r'

/-- A run of spaces. -/
structure Spaces where
  chars : List Char
  space : chars.all isSpace = true

variable {α : Type}

/-- A part between spaces. -/
inductive Spaced (part : List Char → α → Prop) : List Char → α → Prop
  | mk {w a} (before : Spaces) (h : part w a) (after : Spaces) :
    Spaced part (before.chars ++ (w ++ after.chars)) a

/-- Parts between spaces, with commas between them. -/
inductive Listed (part : List Char → α → Prop) : List Char → List α → Prop
  | one {t a} (h : Spaced part t a) : Listed part t [a]
  | more {t u a as} (h : Spaced part t a) (rest : Listed part u as) :
    Listed part (t ++ ',' :: u) (a :: as)

/-! ## Strings -/

/-- The value of a hexadecimal digit. -/
def hexDigit? (c : Char) : Option Nat :=
  if c.isDigit then some (c.toNat - '0'.toNat)
  else if 'a' ≤ c ∧ c ≤ 'f' then some (c.toNat - 'a'.toNat + 10)
  else if 'A' ≤ c ∧ c ≤ 'F' then some (c.toNat - 'A'.toNat + 10)
  else none

/-- The code unit that four hexadecimal digits denote. -/
def codeUnit? (a b c d : Char) : Option Nat := do
  return 16 * (16 * (16 * (← hexDigit? a) + (← hexDigit? b)) + (← hexDigit? c)) + (← hexDigit? d)

/-- The first half of a character beyond U+FFFF. -/
def isHigh (u : Nat) : Bool := 0xD800 ≤ u && u < 0xDC00

/-- The second half of a character beyond U+FFFF. -/
def isLow (u : Nat) : Bool := 0xDC00 ≤ u && u < 0xE000

/-- The character of two halves. -/
def ofHalves (high low : Nat) : Char :=
  Char.ofNat (0x10000 + 0x400 * (high - 0xD800) + (low - 0xDC00))

/-- The character for which a letter stands after a backslash. -/
def named? : Char → Option Char
  | '\x22' => some '\x22'
  | '\\' => some '\\'
  | '/' => some '/'
  | 'b' => some '\x08'
  | 'f' => some '\x0C'
  | 'n' => some '\n'
  | 'r' => some '\r'
  | 't' => some '\t'
  | _ => none

/-- Whether a character may stand for itself in a string. -/
def isPlain (c : Char) : Bool := 0x20 ≤ c.toNat && c ≠ '\x22' && c ≠ '\\'

/-- A character of a string as it is spelled. -/
inductive Letter : List Char → Char → Prop
  | plain {c} (h : isPlain c = true) : Letter [c] c
  | named {l c} (h : named? l = some c) : Letter ['\\', l] c
  | code {a b c d u} (h : codeUnit? a b c d = some u) (hh : isHigh u = false)
    (hl : isLow u = false) : Letter ['\\', 'u', a, b, c, d] (Char.ofNat u)
  | halves {a b c d a' b' c' d' u u'} (h : codeUnit? a b c d = some u) (hu : isHigh u = true)
    (h' : codeUnit? a' b' c' d' = some u') (hu' : isLow u' = true) :
    Letter ['\\', 'u', a, b, c, d, '\\', 'u', a', b', c', d'] (ofHalves u u')

/-- The characters of a string as they are spelled. -/
inductive Letters : List Char → List Char → Prop
  | nil : Letters [] []
  | cons {w c t cs} (h : Letter w c) (rest : Letters t cs) : Letters (w ++ t) (c :: cs)

/-- A string as it is spelled, between its quotes. -/
inductive Quoted : List Char → String → Prop
  | mk {t cs} (h : Letters t cs) : Quoted ('\x22' :: (t ++ ['\x22'])) (String.ofList cs)

/-! ## Values -/

/-- A row of digits without a leading zero. -/
structure Numeral (w : List Char) : Prop where
  ne_nil : w ≠ []
  digits : ∀ c ∈ w, c.isDigit = true
  leading : w.head? = some '0' → w = ['0']

/-- A member of an object as it is spelled: its key, a colon, its value. -/
inductive Member (value : List Char → Json → Prop) : List Char → String × Json → Prop
  | mk {w key t v} (hk : Quoted w key) (before after : Spaces) (hv : value t v) :
    Member value (w ++ (before.chars ++ ':' :: (after.chars ++ t))) (key, v)

/-- A value as it is spelled, from its first character to its last. -/
inductive Value : List Char → Json → Prop
  | null : Value "null".toList null
  | bool (b : Bool) : Value (render b).toList (bool b)
  | number {w} (h : Numeral w) : Value w (number (Nat.ofDigitChars 10 w 0))
  | string {w s} (h : Quoted w s) : Value w (string s)
  | emptyArray (inner : Spaces) : Value ('[' :: (inner.chars ++ [']'])) (array [])
  | array {t items} (h : Listed Value t items) : Value ('[' :: (t ++ [']'])) (array items)
  | emptyObject (inner : Spaces) : Value ('\x7b' :: (inner.chars ++ ['\x7d'])) (object [])
  | object {t members} (h : Listed (Member Value) t members) :
    Value ('\x7b' :: (t ++ ['\x7d'])) (object members)

/-- A well-formed text of a value: the value between spaces. -/
def Spells (text : String) (v : Json) : Prop := Spaced Value text.toList v

/-! ## What is printed -/

/-- No spaces. -/
def Spaces.none : Spaces := ⟨[], rfl⟩

/-- A style that adds nothing but spaces. -/
structure Style.Spacious (style : Style) : Prop where
  lineBreak : ∀ depth, (style.lineBreak depth).all isSpace = true
  afterColon : style.afterColon.all isSpace = true

theorem spacious_compact : Style.compact.Spacious := ⟨fun _ => rfl, rfl⟩

theorem spacious_pretty : Style.pretty.Spacious := by
  refine ⟨fun depth => ?_, by decide⟩
  simp [Style.pretty, isSpace]

theorem Spaced.of_part {part : List Char → α → Prop} {w : List Char} {a : α} (h : part w a) :
    Spaced part w a := by
  simpa [Spaces.none] using Spaced.mk Spaces.none h Spaces.none

/-- The hexadecimal digits of a number below 256, after two zeros. -/
theorem codeUnit?_digitChar {n : Nat} (h : n < 256) :
    codeUnit? '0' '0' (Nat.digitChar (n / 16)) (Nat.digitChar (n % 16)) = some n := by
  have digit : ∀ d < 16, hexDigit? (Nat.digitChar d) = some d := by decide
  have zero : hexDigit? '0' = some 0 := rfl
  simp [codeUnit?, zero, digit (n / 16) (by omega), digit (n % 16) (by omega)]
  omega

theorem letter_escape (c : Char) : Letter (escape c) c := by
  unfold escape
  split
  · next l hl =>
    refine .named ?_
    unfold escapeLetter? at hl
    split at hl <;> cases hl <;> rfl
  · next hl =>
    split
    · next hc =>
      have hcode := Letter.code (codeUnit?_digitChar (n := c.toNat) (by omega))
        (by simp [isHigh]; omega) (by simp [isLow]; omega)
      rwa [Char.ofNat_toNat] at hcode
    · next hc =>
      refine .plain ?_
      have hquote : c ≠ '\x22' := by rintro rfl; cases hl
      have hback : c ≠ '\\' := by rintro rfl; cases hl
      simp [isPlain, hquote, hback]
      omega

theorem letters_flatMap_escape (cs : List Char) : Letters (cs.flatMap escape) cs := by
  induction cs with
  | nil => exact .nil
  | cons c cs ih => exact .cons (letter_escape c) ih

theorem quoted_quote (s : String) : Quoted (quote s) s := by
  have h := Quoted.mk (letters_flatMap_escape s.toList)
  rwa [String.ofList_toList] at h

/-- A number of several digits has none in front that could be left out. -/
theorem head?_toDigits_ne_zero {n : Nat} (h : n ≠ 0) : (Nat.toDigits 10 n).head? ≠ some '0' := by
  induction n using Nat.strongRecOn with
  | _ n ih =>
    rw [Nat.toDigits_eq_if (by decide)]
    split
    · next hn =>
      have hd : ∀ d < 10, d ≠ 0 → [Nat.digitChar d].head? ≠ some '0' := by decide
      exact hd n hn h
    · next hn =>
      have hq := ih (n / 10) (by omega) (by omega)
      obtain ⟨c, t, ht⟩ := List.exists_cons_of_ne_nil (Nat.toDigits_ne_nil (b := 10) (n := n / 10))
      rw [ht] at hq ⊢
      exact hq

theorem numeral_toDigits (n : Nat) : Numeral (Nat.toDigits 10 n) := by
  refine ⟨Nat.toDigits_ne_nil, fun c => Nat.isDigit_of_mem_toDigits (by decide) (by decide), ?_⟩
  intro h0
  by_cases hn : n = 0
  · rw [hn]; rfl
  · exact absurd h0 (head?_toDigits_ne_zero hn)

/-- Parts printed after a first one, each behind a comma and a line break, make a list. -/
theorem listed_append {part : List Char → α → Prop} (g g' : Spaces) (print : α → List Char)
    (as : List α) (hs : ∀ a ∈ as, part (print a) a) {w : List Char} {a : α} (h : part w a) :
    ∀ before : Spaces, Listed part
      (before.chars ++ (w ++ (as.flatMap (fun b => ',' :: (g.chars ++ print b)) ++ g'.chars)))
      (a :: as) := by
  induction as generalizing w a with
  | nil =>
    intro before
    exact .one (.mk before h g')
  | cons b as ih =>
    intro before
    have hb := ih (fun c hc => hs c (List.mem_cons_of_mem b hc)) (hs b List.mem_cons_self) g
    have hl := Listed.more (.mk before h Spaces.none) hb
    simpa [Spaces.none] using hl

/-- A member as it is printed. -/
def printMember (style : Style) (depth : Nat) (m : String × Json) : List Char :=
  quote m.1 ++ ':' :: (style.afterColon ++ print style depth m.2)

theorem printItems_eq_flatMap (style : Style) (depth : Nat) (items : List Json) :
    printItems style depth items =
      items.flatMap fun v => ',' :: (style.lineBreak depth ++ print style depth v) := by
  induction items with
  | nil => rfl
  | cons v items ih => simp [printItems, ih]

theorem printMembers_eq_flatMap (style : Style) (depth : Nat) (members : List (String × Json)) :
    printMembers style depth members =
      members.flatMap fun m => ',' :: (style.lineBreak depth ++ printMember style depth m) := by
  induction members with
  | nil => rfl
  | cons m members ih => simp [printMembers, printMember, ih]

theorem member_printMember {style : Style} (hs : style.Spacious) {depth : Nat} {m : String × Json}
    (hv : Value (print style depth m.2) m.2) : Member Value (printMember style depth m) m := by
  have h := Member.mk (quoted_quote m.1) Spaces.none ⟨style.afterColon, hs.afterColon⟩ hv
  simpa [Spaces.none, printMember] using h

/-- A layout that adds only spaces spells the value. -/
theorem value_print {style : Style} (hs : style.Spacious) :
    ∀ (v : Json) (depth : Nat), Value (print style depth v) v
  | null, depth => by rw [print]; exact .null
  | bool b, depth => by rw [print]; exact .bool b
  | number n, depth => by
    have h := Value.number (numeral_toDigits n)
    rw [Nat.ofDigitChars_ten_toDigits] at h
    rw [print]
    show Value (Text.decimal n).toList _
    rwa [Text.decimal, String.toList_ofList]
  | string s, depth => by rw [print]; exact .string (quoted_quote s)
  | array [], depth => by rw [print]; exact .emptyArray Spaces.none
  | array (item :: items), depth => by
    have hl := listed_append ⟨style.lineBreak (depth + 1), hs.lineBreak _⟩
      ⟨style.lineBreak depth, hs.lineBreak _⟩ (print style (depth + 1)) items
      (fun v hv => value_print hs v (depth + 1)) (value_print hs item (depth + 1))
      ⟨style.lineBreak (depth + 1), hs.lineBreak _⟩
    have h := Value.array hl
    rw [print, printItems_eq_flatMap]
    simpa using h
  | object [], depth => by rw [print]; exact .emptyObject Spaces.none
  | object ((key, v) :: members), depth => by
    have hl := listed_append ⟨style.lineBreak (depth + 1), hs.lineBreak _⟩
      ⟨style.lineBreak depth, hs.lineBreak _⟩ (printMember style (depth + 1)) members
      (fun m hm => member_printMember hs (value_print hs m.2 (depth + 1)))
      (member_printMember (m := (key, v)) hs (value_print hs v (depth + 1)))
      ⟨style.lineBreak (depth + 1), hs.lineBreak _⟩
    have h := Value.object hl
    rw [print, printMembers_eq_flatMap]
    simpa [printMember] using h
termination_by v => sizeOf v
decreasing_by
  · have := List.sizeOf_lt_of_mem hv
    simp
    omega
  · simp
    omega
  · have := List.sizeOf_lt_of_mem hm
    obtain ⟨key, v⟩ := m
    simp at this ⊢
    omega
  · simp
    omega

theorem spells_compact (v : Json) : Spells v.compact v := by
  rw [Spells, compact, String.toList_ofList]
  exact .of_part (value_print spacious_compact v 0)

theorem spells_pretty (v : Json) : Spells v.pretty v := by
  rw [Spells, pretty, String.toList_ofList]
  exact .of_part (value_print spacious_pretty v 0)

end TypeLattice.Json
