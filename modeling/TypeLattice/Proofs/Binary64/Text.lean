import TypeLattice.Proofs.Binary64.Reading

/-!
# The texts of words

The written form of a word shows its sign and its magnitude and nothing else, so it tells
any two words apart but the many that are no number.

Results:

* `text_eq_iff`: two words are written alike exactly if they have the same bits or neither
  is a number;
* `exists_not_digit_mem_text`: the text of a word is never that of an integer;
* `exists_head_text`, `exists_last_text`: it begins with a digit, a sign, or the letter of `NaN`
  or `inf`, and ends with a digit, a point, or the letter of `NaN` or `inf`;
* `all_isNumeral_text`: it has no other characters than these, the other letters of the two words
  and the mark of a power.
-/
namespace TypeLattice.Binary64

/-- Whether the character occurs in texts of numbers. -/
def isNumeral (c : Char) : Bool := c.isDigit || "-.eNainf".toList.contains c

/-! ## Decimals -/

/-- A decimal is written with a digit in front, and never with digits alone. -/
theorem exists_head_text_decimal (d : Decimal) :
    ∃ c t, d.text.toList = c :: t ∧ c.isDigit = true ∧ ('.' ∈ t ∨ 'e' ∈ t) := by
  have hd := digits_toDigits d.digits
  have hn : Nat.toDigits 10 d.digits ≠ [] := Nat.toDigits_ne_nil
  unfold Decimal.text
  dsimp only
  split
  · obtain ⟨w, f, -, ht, hw, hdw, -⟩ := exists_point_of_positional hd hn d.power
    obtain ⟨c, w, rfl⟩ := List.exists_cons_of_ne_nil hw
    rw [String.toList_ofList, ht]
    exact ⟨c, w ++ '.' :: f, rfl, hdw c List.mem_cons_self, .inl (by simp)⟩
  · obtain ⟨c, front, ht, hc, -⟩ := exists_power_of_scientific hd hn d.power
    rw [String.toList_ofList, ht]
    exact ⟨c, front ++ 'e' :: _, rfl, hc, .inr (by simp)⟩

/-- A decimal ends with a digit or with its point. -/
theorem exists_last_text_decimal (d : Decimal) :
    ∃ t c, d.text.toList = t ++ [c] ∧ (c.isDigit = true ∨ c = '.') := by
  have hd := digits_toDigits d.digits
  have hn : Nat.toDigits 10 d.digits ≠ [] := Nat.toDigits_ne_nil
  unfold Decimal.text
  dsimp only
  split
  · obtain ⟨w, f, -, ht, -, -, hdf, -⟩ := exists_point_of_positional hd hn d.power
    rw [String.toList_ofList, ht]
    rcases List.eq_nil_or_concat' f with rfl | ⟨f, c, rfl⟩
    · exact ⟨w, '.', rfl, .inr rfl⟩
    · exact ⟨w ++ '.' :: f, c, by simp, .inl (hdf c (by simp))⟩
  · obtain ⟨c, front, ht, -⟩ := exists_power_of_scientific hd hn d.power
    obtain ⟨t, e, he, hde⟩ := exists_last_signedDecimal d.power
    rw [String.toList_ofList, ht, he]
    exact ⟨c :: front ++ 'e' :: t, e, by simp, .inl hde⟩

theorem all_isNumeral_of_digits {ds : List Char} (hd : Digits ds) : ds.all isNumeral = true := by
  rw [List.all_eq_true]
  intro c hc
  rw [isNumeral, hd c hc, Bool.true_or]

theorem all_isNumeral_fraction {ds : List Char} (hd : Digits ds) :
    (fraction ds).all isNumeral = true := by
  unfold fraction
  split
  · rfl
  · rw [List.all_cons, all_isNumeral_of_digits hd]
    rfl

theorem all_isNumeral_signedDecimal (p : Int) :
    (Text.signedDecimal p).toList.all isNumeral = true := by
  obtain ⟨s, ds, ht, hs, -, hd⟩ := toList_signedDecimal p
  rw [ht, List.all_append, all_isNumeral_of_digits hd]
  rcases hs with rfl | rfl <;> rfl

theorem all_isNumeral_text_decimal (d : Decimal) : d.text.toList.all isNumeral = true := by
  have hd := digits_toDigits d.digits
  have hn : Nat.toDigits 10 d.digits ≠ [] := Nat.toDigits_ne_nil
  unfold Decimal.text
  dsimp only
  split
  · obtain ⟨w, f, -, ht, -, hw, hf, -⟩ := exists_point_of_positional hd hn d.power
    rw [String.toList_ofList, ht, List.all_append, List.all_cons, all_isNumeral_of_digits hw,
      all_isNumeral_of_digits hf]
    rfl
  · rw [String.toList_ofList, scientific, List.all_append, List.all_append, List.all_cons,
      all_isNumeral_of_digits (hd.take 1), all_isNumeral_signedDecimal]
    split
    · rfl
    · rw [all_isNumeral_fraction (hd.drop 1)]
      rfl

/-! ## Magnitudes -/

theorem magnitudeText_eq_text {n : Nat} (h0 : n ≠ 0) (hi : n ≠ infinite) :
    magnitudeText n = (shortest n).text := by
  rw [magnitudeText, if_neg h0, if_neg hi]

theorem magnitudeText_zero : magnitudeText 0 = "0.0" := rfl

theorem magnitudeText_infinite : magnitudeText infinite = "inf" := by
  rw [magnitudeText, if_neg (by decide), if_pos rfl]

/-- A magnitude is zero, infinite, or has a shortest decimal. -/
theorem magnitude_cases (n : Nat) : n = 0 ∨ n = infinite ∨ n ≠ 0 ∧ n ≠ infinite := by omega

theorem exists_head_magnitudeText (n : Nat) :
    ∃ c t, (magnitudeText n).toList = c :: t ∧ (c.isDigit = true ∨ c = 'i') := by
  rcases magnitude_cases n with rfl | rfl | ⟨h0, hi⟩
  · exact ⟨'0', _, rfl, .inl rfl⟩
  · exact ⟨'i', _, by rw [magnitudeText_infinite]; rfl, .inr rfl⟩
  · obtain ⟨c, t, ht, hc, -⟩ := exists_head_text_decimal (shortest n)
    exact ⟨c, t, by rw [magnitudeText_eq_text h0 hi, ht], .inl hc⟩

theorem exists_last_magnitudeText (n : Nat) : ∃ t c, (magnitudeText n).toList = t ++ [c] ∧
    (c.isDigit = true ∨ c = '.' ∨ c = 'f') := by
  rcases magnitude_cases n with rfl | rfl | ⟨h0, hi⟩
  · exact ⟨['0', '.'], '0', rfl, .inl rfl⟩
  · exact ⟨['i', 'n'], 'f', by rw [magnitudeText_infinite]; rfl, by simp⟩
  · obtain ⟨t, c, ht, hc⟩ := exists_last_text_decimal (shortest n)
    exact ⟨t, c, by rw [magnitudeText_eq_text h0 hi, ht], by rcases hc with hc | hc <;> simp [hc]⟩

theorem exists_not_digit_mem_magnitudeText (n : Nat) :
    ∃ c ∈ (magnitudeText n).toList, c.isDigit = false ∧ c ≠ '-' := by
  rcases magnitude_cases n with rfl | rfl | ⟨h0, hi⟩
  · exact ⟨'.', by decide, by decide⟩
  · exact ⟨'i', by rw [magnitudeText_infinite]; decide, by decide⟩
  · rw [magnitudeText_eq_text h0 hi]
    obtain ⟨c, t, ht, -, h⟩ := exists_head_text_decimal (shortest n)
    rw [ht]
    rcases h with h | h
    · exact ⟨'.', List.mem_cons_of_mem c h, by decide⟩
    · exact ⟨'e', List.mem_cons_of_mem c h, by decide⟩

theorem all_isNumeral_magnitudeText (n : Nat) : (magnitudeText n).toList.all isNumeral = true := by
  rcases magnitude_cases n with rfl | rfl | ⟨h0, hi⟩
  · rfl
  · rw [magnitudeText_infinite]
    rfl
  · rw [magnitudeText_eq_text h0 hi, all_isNumeral_text_decimal]

/-- The text of zero denotes zero, and no shortest decimal does. -/
theorem text_shortest_ne_zero {n : Nat} (h : 0 < n) : (shortest n).text ≠ "0.0" := by
  intro he
  have hz : read "0.0".toList = 0 := by
    have h0 : Digits ['0'] := digits_replicate 1
    have := read_point h0 h0
    rw [show "0.0".toList = ['0'] ++ '.' :: ['0'] from rfl, this]
    simp [Nat.ofDigitChars]
  have hv := read_text (shortest n)
  rw [he, hz] at hv
  rcases mul_eq_zero.1 hv.symm with h' | h'
  · have := value_shortest_pos h
    rw [Nat.cast_eq_zero] at h'
    omega
  · exact ten_zpow_ne_zero _ h'

theorem text_shortest_ne_infinite (n : Nat) : (shortest n).text ≠ "inf" := by
  intro he
  obtain ⟨c, t, ht, hc, -⟩ := exists_head_text_decimal (shortest n)
  rw [he] at ht
  have : 'i' = c := (List.cons.inj ht).1
  rw [← this] at hc
  cases hc

theorem magnitudeText_injective {m n : Nat} (h : magnitudeText m = magnitudeText n) : m = n := by
  rcases magnitude_cases m with rfl | rfl | ⟨hm0, hmi⟩ <;>
    rcases magnitude_cases n with rfl | rfl | ⟨hn0, hni⟩
  · rfl
  · rw [magnitudeText_zero, magnitudeText_infinite] at h; exact absurd h (by decide)
  · rw [magnitudeText_zero, magnitudeText_eq_text hn0 hni] at h
    exact absurd h.symm (text_shortest_ne_zero (by omega))
  · rw [magnitudeText_zero, magnitudeText_infinite] at h; exact absurd h (by decide)
  · rfl
  · rw [magnitudeText_infinite, magnitudeText_eq_text hn0 hni] at h
    exact absurd h.symm (text_shortest_ne_infinite n)
  · rw [magnitudeText_zero, magnitudeText_eq_text hm0 hmi] at h
    exact absurd h (text_shortest_ne_zero (by omega))
  · rw [magnitudeText_infinite, magnitudeText_eq_text hm0 hmi] at h
    exact absurd h (text_shortest_ne_infinite m)
  · rw [magnitudeText_eq_text hm0 hmi, magnitudeText_eq_text hn0 hni] at h
    exact eq_of_value_shortest (by omega) (by omega) (value_eq_of_text_eq h)

/-! ## Words -/

theorem text_of_isNaN {x : Binary64} (h : x.isNaN = true) : x.text = "NaN" := by
  rw [text, if_pos h]

/-- The characters of a word that is a number: a sign where it is negative, and its
magnitude. -/
theorem toList_text {x : Binary64} (h : x.isNaN = false) : x.text.toList =
    (if x.isNegative then ['-'] else []) ++ (magnitudeText x.magnitude).toList := by
  rw [text, h, if_neg Bool.false_ne_true, String.toList_append]
  cases x.isNegative <;> simp

theorem exists_head_text (x : Binary64) : ∃ c t, x.text.toList = c :: t ∧
    (c.isDigit = true ∨ c = '-' ∨ c = 'i' ∨ c = 'N') := by
  cases hx : x.isNaN with
  | true => exact ⟨'N', _, by rw [text_of_isNaN hx]; rfl, by simp⟩
  | false =>
    obtain ⟨c, t, ht, hc⟩ := exists_head_magnitudeText x.magnitude
    rw [toList_text hx, ht]
    cases x.isNegative with
    | true => exact ⟨'-', _, rfl, by simp⟩
    | false => exact ⟨c, t, rfl, by rcases hc with hc | hc <;> simp [hc]⟩

theorem exists_last_text (x : Binary64) : ∃ t c, x.text.toList = t ++ [c] ∧
    (c.isDigit = true ∨ c = '.' ∨ c = 'f' ∨ c = 'N') := by
  cases hx : x.isNaN with
  | true => exact ⟨['N', 'a'], 'N', by rw [text_of_isNaN hx]; rfl, by simp⟩
  | false =>
    obtain ⟨t, c, ht, hc⟩ := exists_last_magnitudeText x.magnitude
    rw [toList_text hx, ht, ← List.append_assoc]
    exact ⟨_, c, rfl, by rcases hc with hc | hc | hc <;> simp [hc]⟩

theorem exists_not_digit_mem_text (x : Binary64) :
    ∃ c ∈ x.text.toList, c.isDigit = false ∧ c ≠ '-' := by
  cases hx : x.isNaN with
  | true => exact ⟨'N', by rw [text_of_isNaN hx]; decide, by decide⟩
  | false =>
    obtain ⟨c, hc, hd⟩ := exists_not_digit_mem_magnitudeText x.magnitude
    exact ⟨c, by rw [toList_text hx]; exact List.mem_append_right _ hc, hd⟩

theorem all_isNumeral_text (x : Binary64) : x.text.toList.all isNumeral = true := by
  cases hx : x.isNaN with
  | true =>
    rw [text_of_isNaN hx]
    rfl
  | false =>
    rw [toList_text hx, List.all_append, all_isNumeral_magnitudeText]
    cases x.isNegative <;> rfl

theorem text_ne_NaN {x : Binary64} (h : x.isNaN = false) : x.text ≠ "NaN" := by
  intro he
  obtain ⟨c, t, ht, hc⟩ := exists_head_magnitudeText x.magnitude
  have hl := toList_text h
  rw [he, ht] at hl
  have hc' : c ≠ 'N' := by intro he; subst he; simp at hc
  cases hn : x.isNegative <;> simp [hn] at hl
  exact hc' hl.1.symm

/-- The sign and the magnitude are all of a word. -/
theorem bits_eq_of_magnitude {x y : Binary64} (hs : x.isNegative = y.isNegative)
    (hm : x.magnitude = y.magnitude) : x.bits = y.bits := by
  have hx := x.bits.toNat_lt
  have hy := y.bits.toNat_lt
  apply UInt64.toNat_inj.1
  unfold isNegative magnitude signWeight at *
  rw [decide_eq_decide] at hs
  omega

theorem isNaN_of_isZero {x : Binary64} (h : x.isZero = true) : x.isNaN = false := by
  unfold isZero at h
  unfold isNaN
  rw [decide_eq_true_eq] at h
  rw [h]; rfl

theorem sign_and_magnitude_of_text {x y : Binary64} (hx : x.isNaN = false) (hy : y.isNaN = false)
    (h : x.text = y.text) : x.isNegative = y.isNegative ∧ x.magnitude = y.magnitude := by
  have hl : x.text.toList = y.text.toList := by rw [h]
  rw [toList_text hx, toList_text hy] at hl
  obtain ⟨c, t, ht, hc⟩ := exists_head_magnitudeText x.magnitude
  obtain ⟨d, u, hu, hd⟩ := exists_head_magnitudeText y.magnitude
  have hc' : c ≠ '-' := by intro he; subst he; simp at hc
  have hd' : d ≠ '-' := by intro he; subst he; simp at hd
  cases hnx : x.isNegative <;> cases hny : y.isNegative <;> simp [hnx, hny] at hl
  · exact ⟨rfl, magnitudeText_injective (String.toList_injective hl)⟩
  · rw [ht] at hl; exact absurd (List.cons.inj hl).1 hc'
  · rw [hu] at hl; exact absurd (List.cons.inj hl).1.symm hd'
  · exact ⟨rfl, magnitudeText_injective (String.toList_injective hl)⟩

theorem text_eq_iff {x y : Binary64} :
    x.text = y.text ↔ x.bits = y.bits ∨ x.isNaN = true ∧ y.isNaN = true := by
  constructor
  · intro h
    cases hx : x.isNaN <;> cases hy : y.isNaN
    · obtain ⟨hs, hm⟩ := sign_and_magnitude_of_text hx hy h
      exact .inl (bits_eq_of_magnitude hs hm)
    · rw [text_of_isNaN hy] at h; exact absurd h (text_ne_NaN hx)
    · rw [text_of_isNaN hx] at h; exact absurd h.symm (text_ne_NaN hy)
    · exact .inr ⟨rfl, rfl⟩
  · intro h
    rcases h with h | ⟨hx, hy⟩
    · rw [show x = y from by cases x; cases y; exact congrArg _ h]
    · rw [text_of_isNaN hx, text_of_isNaN hy]

end TypeLattice.Binary64
