import Mathlib.Data.List.Basic
import Mathlib.Data.Rat.Cast.Order
import Mathlib.Tactic.Ring
import TypeLattice.Binary64.Text
import TypeLattice.Proofs.Binary64.Interval
import TypeLattice.Proofs.Text.Separator

/-!
# Numbers read back from their texts

`read` takes a text of digits, with or without a point and a power of ten, for the rational
number that it denotes. The layout of a decimal, positional or scientific, never changes
what is read, so the text of a decimal determines its value.

Results:

* `read_text`: the text of a decimal denotes its value;
* `value_eq_of_text_eq`: decimals with the same text have the same value.
-/
namespace TypeLattice.Binary64

open Text (cut cut_of_not_mem cut_append)

/-! ## The reader -/

/-- The integer that digits after an optional sign denote. -/
def integer : List Char → Int
  | '-' :: digits => -(Nat.ofDigitChars 10 digits 0 : Int)
  | digits => Nat.ofDigitChars 10 digits 0

/-- The number that a mantissa denotes: digits with at most one point between them. -/
def mantissa (s : List Char) : ℚ :=
  let (whole, fraction) := cut '.' s
  (Nat.ofDigitChars 10 (whole ++ fraction) 0 : ℚ) * 10 ^ (-(fraction.length : ℤ))

/-- The number that a text denotes: a mantissa, and a power of ten if there is an `e`. -/
def read (s : List Char) : ℚ :=
  let (front, power) := cut 'e' s
  mantissa front * 10 ^ integer power

/-! ## Texts of digits -/

/-- A text of decimal digits. -/
def Digits (s : List Char) : Prop := ∀ c ∈ s, c.isDigit = true

theorem digits_toDigits (n : Nat) : Digits (Nat.toDigits 10 n) := fun _ =>
  Nat.isDigit_of_mem_toDigits (by decide) (by decide)

theorem digits_replicate (n : Nat) : Digits (List.replicate n '0') := by
  intro c hc
  rw [(List.mem_replicate.1 hc).2]; rfl

theorem Digits.append {s t : List Char} (hs : Digits s) (ht : Digits t) : Digits (s ++ t) := by
  intro c hc
  rcases List.mem_append.1 hc with h | h
  · exact hs c h
  · exact ht c h

theorem Digits.take {s : List Char} (hs : Digits s) (n : Nat) : Digits (s.take n) :=
  fun c hc => hs c (List.mem_of_mem_take hc)

theorem Digits.drop {s : List Char} (hs : Digits s) (n : Nat) : Digits (s.drop n) :=
  fun c hc => hs c (List.mem_of_mem_drop hc)

theorem Digits.not_mem {s : List Char} (hs : Digits s) {mark : Char}
    (h : mark.isDigit = false) : mark ∉ s := fun hm => by
  rw [hs mark hm] at h; cases h

/-- An integer is written with digits, after a sign where it is negative. -/
theorem toList_signedDecimal (p : Int) : ∃ s ds, (Text.signedDecimal p).toList = s ++ ds ∧
    (s = [] ∨ s = ['-']) ∧ ds ≠ [] ∧ Digits ds := by
  cases p with
  | ofNat n =>
    exact ⟨[], _, by simp [Text.signedDecimal, Text.decimal], .inl rfl, Nat.toDigits_ne_nil,
      digits_toDigits n⟩
  | negSucc n =>
    exact ⟨['-'], _, by simp [Text.signedDecimal, Text.decimal], .inr rfl, Nat.toDigits_ne_nil,
      digits_toDigits (n + 1)⟩

theorem isDigit_of_mem_signedDecimal {p : Int} {c : Char}
    (h : c ∈ (Text.signedDecimal p).toList) : c.isDigit = true ∨ c = '-' := by
  obtain ⟨s, ds, ht, hs, -, hd⟩ := toList_signedDecimal p
  rw [ht] at h
  rcases List.mem_append.1 h with h | h
  · rcases hs with rfl | rfl
    · cases h
    · exact .inr (List.mem_singleton.1 h)
  · exact .inl (hd c h)

theorem exists_last_signedDecimal (p : Int) :
    ∃ t c, (Text.signedDecimal p).toList = t ++ [c] ∧ c.isDigit = true := by
  obtain ⟨s, ds, h, -, hn, hd⟩ := toList_signedDecimal p
  obtain ⟨t, c, rfl⟩ := (List.eq_nil_or_concat' ds).resolve_left hn
  exact ⟨s ++ t, c, by rw [h, List.append_assoc], hd c (by simp)⟩

theorem integer_digits {s : List Char} (hs : Digits s) : integer s = Nat.ofDigitChars 10 s 0 := by
  unfold integer
  split
  · exact absurd (hs '-' List.mem_cons_self) (by decide)
  · rfl

theorem integer_signedDecimal (p : Int) : integer (Text.signedDecimal p).toList = p := by
  cases p with
  | ofNat n =>
    rw [Text.signedDecimal, Text.decimal, String.toList_ofList, integer_digits (digits_toDigits n),
      Nat.ofDigitChars_ten_toDigits]
    rfl
  | negSucc n =>
    have hs : (Text.signedDecimal (.negSucc n)).toList = '-' :: Nat.toDigits 10 (n + 1) := by
      simp [Text.signedDecimal, Text.decimal]
    rw [hs, integer, Nat.ofDigitChars_ten_toDigits]; rfl

/-! ## The parts of a text -/

theorem mantissa_digits {s : List Char} (hs : Digits s) :
    mantissa s = Nat.ofDigitChars 10 s 0 := by
  have h : '.' ∉ s := hs.not_mem (by decide)
  simp [mantissa, cut_of_not_mem h]

theorem mantissa_point {w f : List Char} (hw : Digits w) :
    mantissa (w ++ '.' :: f) =
      (Nat.ofDigitChars 10 (w ++ f) 0 : ℚ) * 10 ^ (-(f.length : ℤ)) := by
  rw [mantissa, cut_append (hw.not_mem (by decide))]

theorem read_of_not_mem {s : List Char} (hs : 'e' ∉ s) : read s = mantissa s := by
  simp [read, cut_of_not_mem hs, integer, Nat.ofDigitChars_nil]

theorem read_power {s : List Char} (hs : 'e' ∉ s) (p : Int) :
    read (s ++ 'e' :: (Text.signedDecimal p).toList) = mantissa s * 10 ^ p := by
  rw [read, cut_append hs]
  simp only [integer_signedDecimal]

theorem read_point {w f : List Char} (hw : Digits w) (hf : Digits f) :
    read (w ++ '.' :: f) = (Nat.ofDigitChars 10 (w ++ f) 0 : ℚ) * 10 ^ (-(f.length : ℤ)) := by
  have h : 'e' ∉ w ++ '.' :: f := by
    have h1 : 'e' ∉ w := hw.not_mem (by decide)
    have h2 : 'e' ∉ f := hf.not_mem (by decide)
    simp [h1, h2]
  rw [read_of_not_mem h, mantissa_point hw]

/-! ## The two layouts -/

theorem ofDigitChars_zeros_append (n : Nat) (ds : List Char) :
    Nat.ofDigitChars 10 (List.replicate n '0' ++ ds) 0 = Nat.ofDigitChars 10 ds 0 := by
  rw [Nat.ofDigitChars_append, Nat.ofDigitChars_replicate_zero, Nat.mul_zero]

theorem ofDigitChars_append_zeros (ds : List Char) (n : Nat) :
    Nat.ofDigitChars 10 (ds ++ List.replicate n '0') 0 = 10 ^ n * Nat.ofDigitChars 10 ds 0 := by
  rw [Nat.ofDigitChars_append, Nat.ofDigitChars_replicate_zero]

/-- A positional text has digits on both sides of its point. Zeros are added in front of the
digits, or `n` of them behind. -/
theorem exists_point_of_positional {ds : List Char} (hd : Digits ds) (hn : ds ≠ [])
    (power : Int) : ∃ (w f : List Char) (n : Nat), positional ds power = w ++ '.' :: f ∧
      w ≠ [] ∧ Digits w ∧ Digits f ∧
      Nat.ofDigitChars 10 (w ++ f) 0 = 10 ^ n * Nat.ofDigitChars 10 ds 0 ∧
      (n : ℤ) - f.length = power + 1 - ds.length := by
  have hlen : 0 < ds.length := List.length_pos_iff.2 hn
  unfold positional
  by_cases hp : power < 0
  · -- every digit is behind the point
    refine ⟨['0'], List.replicate (-power - 1).toNat '0' ++ ds, 0, ?_, by simp, digits_replicate 1,
      (digits_replicate _).append hd, ?_, ?_⟩
    · simp [hp, fraction, hn]
    · rw [← List.append_assoc, show ['0'] = List.replicate 1 '0' from rfl,
        List.replicate_append_replicate, ofDigitChars_zeros_append]
      simp
    · simp; omega
  · rw [if_neg hp]
    dsimp only
    generalize hw : power.toNat + 1 = whole
    rcases Nat.lt_or_ge whole ds.length with h | h
    · -- the point is between two digits
      refine ⟨ds.take whole, ds.drop whole, 0, ?_, by simp [hn]; omega, hd.take _, hd.drop _,
        ?_, ?_⟩
      · have h0 : ds.drop whole ≠ [] := by simp; omega
        have hz : whole - ds.length = 0 := by omega
        simp [fraction, h0, hz]
      · simp
      · simp; omega
    · -- every digit is in front of the point, and zeros fill the places up to it
      refine ⟨ds ++ List.replicate (whole - ds.length) '0', ['0'], whole - ds.length + 1, ?_,
        by simp [hn], hd.append (digits_replicate _), digits_replicate 1, ?_, ?_⟩
      · simp [fraction, List.drop_eq_nil_of_le h, List.take_of_length_le h]
      · rw [List.append_assoc, show ['0'] = List.replicate 1 '0' from rfl,
          List.replicate_append_replicate, ofDigitChars_append_zeros]
      · simp; omega

/-- A scientific text has one digit in front of its point, if it has a point. -/
theorem exists_power_of_scientific {ds : List Char} (hd : Digits ds) (hn : ds ≠ [])
    (power : Int) : ∃ c front,
      scientific ds power = c :: front ++ 'e' :: (Text.signedDecimal power).toList ∧
      c.isDigit = true ∧ 'e' ∉ c :: front ∧
      mantissa (c :: front) = (Nat.ofDigitChars 10 ds 0 : ℚ) * 10 ^ (1 - ds.length : ℤ) := by
  obtain ⟨c, rest, rfl⟩ := List.exists_cons_of_ne_nil hn
  have hc : Digits [c] := hd.take 1
  have he : 'e' ∉ c :: rest := hd.not_mem (by decide)
  refine ⟨c, if rest = [] then [] else '.' :: rest, ?_, hc c List.mem_cons_self, ?_, ?_⟩
  · by_cases h0 : rest = [] <;> simp [scientific, fraction, h0]
  · split
    · exact hc.not_mem (by decide)
    · simpa using he
  · split
    · next h0 => rw [h0, mantissa_digits hc]; simp
    · rw [← List.singleton_append, mantissa_point hc]
      simp

/-! ## Decimals -/

theorem ten_zpow_ne_zero (p : ℤ) : (10 : ℚ) ^ p ≠ 0 := zpow_ne_zero p (by norm_num)

theorem ten_pow_mul_zpow (n : Nat) (a : ℚ) (p : ℤ) :
    ((10 : ℚ) ^ n * a) * 10 ^ p = a * 10 ^ (n + p : ℤ) := by
  rw [zpow_add₀ (by norm_num), zpow_natCast]; ring

theorem read_positional {ds : List Char} (hd : Digits ds) (hn : ds ≠ []) (power : Int) :
    read (positional ds power) =
      (Nat.ofDigitChars 10 ds 0 : ℚ) * 10 ^ (power + 1 - ds.length : ℤ) := by
  obtain ⟨w, f, n, ht, -, hw, hf, hv, he⟩ := exists_point_of_positional hd hn power
  rw [ht, read_point hw hf, hv, ← he]
  push_cast
  rw [ten_pow_mul_zpow, sub_eq_add_neg]

theorem read_scientific {ds : List Char} (hd : Digits ds) (hn : ds ≠ []) (power : Int) :
    read (scientific ds power) =
      (Nat.ofDigitChars 10 ds 0 : ℚ) * 10 ^ (power + 1 - ds.length : ℤ) := by
  obtain ⟨c, front, ht, -, he, hv⟩ := exists_power_of_scientific hd hn power
  rw [ht, read_power he, hv, mul_assoc, ← zpow_add₀ (by norm_num)]
  congr 2
  omega

/-- The text of a decimal denotes its value, which counts units of 10^-1074. -/
theorem read_text (d : Decimal) : read d.text.toList = d.value * 10 ^ (-1074 : ℤ) := by
  have hd := digits_toDigits d.digits
  have hn : Nat.toDigits 10 d.digits ≠ [] := Nat.toDigits_ne_nil
  have hp : d.power + 1 - (Nat.toDigits 10 d.digits).length = (d.grid : ℤ) + -1074 := by
    rw [Decimal.power]; push_cast; omega
  have hv : read d.text.toList = (d.digits : ℚ) * 10 ^ ((d.grid : ℤ) + -1074) := by
    unfold Decimal.text
    dsimp only
    split
    · rw [String.toList_ofList, read_positional hd hn, hp, Nat.ofDigitChars_ten_toDigits]
    · rw [String.toList_ofList, read_scientific hd hn, hp, Nat.ofDigitChars_ten_toDigits]
  rw [hv, zpow_add₀ (by norm_num), zpow_natCast, ← mul_assoc]
  congr 1
  simp [Decimal.value]

theorem value_eq_of_text_eq {d d' : Decimal} (h : d.text = d'.text) : d.value = d'.value := by
  have := read_text d
  rw [h, read_text d'] at this
  exact_mod_cast (mul_right_cancel₀ (ten_zpow_ne_zero _) this).symm

end TypeLattice.Binary64
