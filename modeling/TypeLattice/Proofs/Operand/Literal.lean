import TypeLattice.Operand.Basic
import TypeLattice.Proofs.Binary64.Text
import TypeLattice.Proofs.Text.Quoting

/-!
# The texts of literals

The first character of a literal's text tells truth values, numbers, characters, strings
and symbols apart; among the numbers, the integers have nothing but digits and a sign. So
the text shows the sort of the literal, and within a sort its value, except that all words
that are no number are written alike.

Results:

* `render_eq_iff`: two literals are written alike exactly if they are `Same`;
* `same_and_not_equals_iff`, `equals_and_not_same_iff`: where being written alike and being
  equal come apart, at NaN and at the two zeros.
-/
namespace TypeLattice.Literal

/-- The same literal; of words that are no number, any two are. -/
def Same : Literal → Literal → Prop
  | float x, float y => x.bits = y.bits ∨ x.isNaN = true ∧ y.isNaN = true
  | v, w => v = w

/-! ## First characters -/

/-- What the first character of a literal's text tells. -/
inductive Opening where
  | truth
  | number
  | character
  | string
  | symbol

/-- What a text that begins with the character can be. -/
def Opening.ofChar (c : Char) : Opening :=
  if c = Text.singleMark then character
  else if c = Text.doubleMark then string
  else if c = '@' then symbol
  else if c = 't' ∨ c = 'f' then truth
  else number

/-- What the first character of the literal's text tells. -/
def opening : Literal → Opening
  | bool _ => .truth
  | int _ | float _ => .number
  | char _ => .character
  | string _ => .string
  | symbol _ => .symbol

theorem ofChar_of_number {c : Char} (h : c.isDigit = true ∨ c = '-' ∨ c = 'i' ∨ c = 'N') :
    Opening.ofChar c = .number := by
  have hne : ∀ d, d.isDigit = false → d ≠ '-' → d ≠ 'i' → d ≠ 'N' → c ≠ d := by
    rintro d h1 h2 h3 h4 rfl
    rcases h with h | h | h | h
    · rw [h1] at h; cases h
    · exact h2 h
    · exact h3 h
    · exact h4 h
  unfold Opening.ofChar
  rw [if_neg (hne _ (by decide) (by decide) (by decide) (by decide)),
    if_neg (hne _ (by decide) (by decide) (by decide) (by decide)),
    if_neg (hne _ (by decide) (by decide) (by decide) (by decide)), if_neg]
  rintro (rfl | rfl) <;> simp at h

theorem exists_head_signedDecimal (p : Int) :
    ∃ c t, (Text.signedDecimal p).toList = c :: t ∧ (c.isDigit = true ∨ c = '-') := by
  obtain ⟨s, ds, h, hs, hn, hd⟩ := Binary64.toList_signedDecimal p
  rcases hs with rfl | rfl
  · obtain ⟨c, t, rfl⟩ := List.exists_cons_of_ne_nil hn
    exact ⟨c, t, h, .inl (hd c List.mem_cons_self)⟩
  · exact ⟨'-', ds, h, .inr rfl⟩

theorem exists_head_render (v : Literal) :
    ∃ c t, (render v).toList = c :: t ∧ Opening.ofChar c = v.opening := by
  cases v with
  | bool b =>
    cases b with
    | true => exact ⟨'t', "rue".toList, rfl, rfl⟩
    | false => exact ⟨'f', "alse".toList, rfl, rfl⟩
  | int i =>
    obtain ⟨c, t, h, hc⟩ := exists_head_signedDecimal i.toInt
    exact ⟨c, t, h, ofChar_of_number (by rcases hc with hc | hc <;> simp [hc])⟩
  | float x =>
    obtain ⟨c, t, h, hc⟩ := Binary64.exists_head_text x
    exact ⟨c, t, h, ofChar_of_number hc⟩
  | char c => exact ⟨_, _, String.toList_ofList, rfl⟩
  | string s => exact ⟨_, _, String.toList_ofList, rfl⟩
  | symbol name => exact ⟨'@', name.toList, by simp [render], rfl⟩

theorem opening_eq_of_render_eq {v w : Literal} (h : render v = render w) :
    v.opening = w.opening := by
  obtain ⟨c, t, hv, hc⟩ := exists_head_render v
  obtain ⟨d, u, hw, hd⟩ := exists_head_render w
  rw [h, hw] at hv
  rw [← hc, ← hd, (List.cons.inj hv).1]

/-! ## Values of one sort -/

theorem render_int_ne_render_float (i : Int64) (x : Binary64) :
    render (int i) ≠ render (float x) := by
  intro h
  obtain ⟨c, hc, hd, hs⟩ := Binary64.exists_not_digit_mem_text x
  have hm : c ∈ (Text.signedDecimal i.toInt).toList := by
    rw [show Text.signedDecimal i.toInt = x.text from h]; exact hc
  rcases Binary64.isDigit_of_mem_signedDecimal hm with h | h
  · rw [hd] at h; cases h
  · exact hs h

theorem render_bool_injective {b c : Bool} (h : render (bool b) = render (bool c)) : b = c := by
  cases b <;> cases c <;> first | rfl | exact absurd h (by decide)

theorem render_int_injective {i j : Int64} (h : render (int i) = render (int j)) : i = j := by
  apply Int64.toInt_inj.1
  rw [← Binary64.integer_signedDecimal i.toInt, ← Binary64.integer_signedDecimal j.toInt]
  exact congrArg (fun s => Binary64.integer s.toList) h

theorem render_symbol_injective {m n : String} (h : render (symbol m) = render (symbol n)) :
    m = n := by
  have : "@".toList ++ m.toList = "@".toList ++ n.toList := by
    rw [← String.toList_append, ← String.toList_append]; exact congrArg String.toList h
  exact String.toList_injective (List.append_cancel_left this)

theorem same_of_render_eq {v w : Literal} (h : render v = render w) : v.Same w := by
  have ho := opening_eq_of_render_eq h
  cases v with
  | bool b =>
    cases w with
    | bool c => exact congrArg _ (render_bool_injective h)
    | _ => cases ho
  | int i =>
    cases w with
    | int j => exact congrArg _ (render_int_injective h)
    | float y => exact absurd h (render_int_ne_render_float i y)
    | _ => cases ho
  | float x =>
    cases w with
    | int j => exact absurd h.symm (render_int_ne_render_float j x)
    | float y => exact Binary64.text_eq_iff.1 h
    | _ => cases ho
  | char c =>
    cases w with
    | char d => exact congrArg _ (Text.quotedChar_injective h)
    | _ => cases ho
  | string s =>
    cases w with
    | string t => exact congrArg _ (Text.quotedString_injective h)
    | _ => cases ho
  | symbol m =>
    cases w with
    | symbol n => exact congrArg _ (render_symbol_injective h)
    | _ => cases ho

theorem render_eq_of_same {v w : Literal} (h : v.Same w) : render v = render w := by
  cases v with
  | float x =>
    cases w with
    | float y => exact Binary64.text_eq_iff.2 h
    | _ => cases h
  | _ => cases h; rfl

/-! ## Being written alike and being equal -/

theorem same_and_not_equals_iff {v w : Literal} : v.Same w ∧ v.equals w = false ↔
    ∃ x y, v = float x ∧ w = float y ∧ x.isNaN = true ∧ y.isNaN = true := by
  constructor
  · intro h
    obtain ⟨hs, he⟩ := h
    cases v with
    | float x =>
      cases w with
      | float y =>
        refine ⟨x, y, rfl, rfl, ?_⟩
        rcases hs with hb | h
        · obtain rfl : x = y := by cases x; cases y; exact congrArg _ hb
          cases hx : x.isNaN with
          | true => exact ⟨rfl, rfl⟩
          | false => rw [equals, Binary64.equals_self hx] at he; cases he
        · exact h
      | _ => cases hs
    | _ => cases hs; simp [equals] at he
  · intro h
    obtain ⟨x, y, rfl, rfl, hx, hy⟩ := h
    exact ⟨.inr ⟨hx, hy⟩, Binary64.equals_nan hx⟩

theorem equals_and_not_same_iff {v w : Literal} : ¬v.Same w ∧ v.equals w = true ↔
    ∃ x y, v = float x ∧ w = float y ∧ x.isZero = true ∧ y.isZero = true ∧
      x.isNegative ≠ y.isNegative := by
  constructor
  · intro h
    obtain ⟨hs, he⟩ := h
    cases v with
    | float x =>
      cases w with
      | float y =>
        simp only [Same, not_or] at hs
        simp only [equals, Binary64.equals, Bool.and_eq_true, Bool.or_eq_true, hs.1,
          decide_false, Bool.false_eq_true, false_or] at he
        obtain ⟨-, hx, hy⟩ := he
        refine ⟨x, y, rfl, rfl, hx, hy, fun hn => hs.1 (Binary64.bits_eq_of_magnitude hn ?_)⟩
        unfold Binary64.isZero at hx hy
        rw [decide_eq_true_eq] at hx hy
        rw [hx, hy]
      | _ => simp [equals] at he
    | _ => exact absurd (by simpa [equals, Same] using he) hs
  · intro h
    obtain ⟨x, y, rfl, rfl, hx, hy, hn⟩ := h
    have hxn := Binary64.isNaN_of_isZero hx
    have hyn := Binary64.isNaN_of_isZero hy
    refine ⟨?_, by simp [equals, Binary64.equals, hx, hy, hxn, hyn]⟩
    intro hs
    rcases hs with hb | ⟨h, -⟩
    · exact hn (by rw [Binary64.isNegative, Binary64.isNegative, hb])
    · rw [hxn] at h; cases h

end TypeLattice.Literal
