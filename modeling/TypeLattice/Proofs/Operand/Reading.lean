import TypeLattice.Proofs.Operand.Text

/-!
# Operands read as types

The text of an operand is not meant for the reader of types, and mostly it is refused: a
variable begins with a sign that begins no type, a constant has a space and its value behind
its type. The value can end like a reference only if it is a symbol, whose name is free text.
Then the text of a constant goes on from the first bracket of its type to the last of the
symbol, and if the type refers to a class, all between is the name of another class.

`ReadsAs` says what each operand is read as.

Results:

* `exists_last_render`: a literal that is no symbol ends with a character that is no blank and
  closes no bracket;
* `trim_render_constant`: what trimming leaves of the text of a constant;
* `parse_render_iff_readsAs`: what the reader makes of an operand, and when that is a type.
-/
namespace TypeLattice

/-- The text without the blanks at its end. -/
def Text.trimmedEnd (s : String) : String := String.ofList (trimEnd s.toList)

open Text (isBlank trim trimEnd trimmedEnd)

theorem Text.trimmedEnd_eq_append_iff {s k : String} :
    trimmedEnd s = k ++ ">" ↔ trimEnd s.toList = k.toList ++ ['>'] := by
  rw [trimmedEnd, ← String.toList_inj, String.toList_ofList, String.toList_append]
  rfl

/-! ## The ends of literals -/

/-- Only a symbol ends as its name does. -/
theorem Literal.exists_last_render {v : Literal} (h : ∀ name, v ≠ symbol name) :
    ∃ t c, (render v).toList = t ++ [c] ∧ isBlank c = false ∧ c ≠ '>' := by
  have digit : ∀ c : Char, c.isDigit = true → isBlank c = false ∧ c ≠ '>' := by
    intro c hc
    refine ⟨Text.isBlank_of_isDigit hc, fun he => ?_⟩
    subst he
    cases hc
  cases v with
  | bool b =>
    cases b with
    | true => exact ⟨"tru".toList, 'e', rfl, by decide⟩
    | false => exact ⟨"fals".toList, 'e', rfl, by decide⟩
  | int i =>
    obtain ⟨t, c, ht, hc⟩ := Binary64.exists_last_signedDecimal i.toInt
    exact ⟨t, c, ht, digit c hc⟩
  | float x =>
    obtain ⟨t, c, ht, hc⟩ := Binary64.exists_last_text x
    refine ⟨t, c, ht, ?_⟩
    rcases hc with hc | rfl | rfl | rfl
    · exact digit c hc
    all_goals decide
  | char c => exact ⟨_ :: _, Text.singleMark, String.toList_ofList, by decide⟩
  | string s => exact ⟨_ :: _, Text.doubleMark, String.toList_ofList, by decide⟩
  | symbol name => exact absurd rfl (h name)

theorem Literal.toList_render_symbol (name : String) :
    (render (symbol name)).toList = '@' :: name.toList := by
  show ("@" ++ name).toList = _
  rw [String.toList_append]
  rfl

namespace Operand

/-! ## What trimming leaves of an operand -/

theorem trim_render_var (t : Ty Pointee) (name : String) :
    trim (render (var t name)).toList = (render (var t name)).toList := by
  obtain ⟨-, u, c, hu, hc⟩ := Text.solid_iff.1 (Ty.solid_render t)
  have hv : (render (var t name)).toList =
      '%' :: (name.toList ++ ':' :: ' ' :: u) ++ [c] := by
    rw [toList_render_var, hu]
    simp
  rw [hv]
  exact Text.trim_eq_self_of_solid (Text.solid_cons_append_singleton (by decide) hc _)

/-- Nothing comes off in front, where the type stands, nor behind, up to the value. -/
theorem trim_render_constant (t : Ty Pointee) (v : Literal) :
    trim (render (constant t v)).toList = trimEnd (render (constant t v)).toList := by
  rw [toList_render_constant]
  exact Text.trim_solid_append (Ty.solid_render t) _

theorem trimEnd_render_literal (t : Ty Pointee) {v : Literal} (h : ∀ name, v ≠ .symbol name) :
    trimEnd (render (constant t v)).toList = (render (constant t v)).toList := by
  obtain ⟨u, c, hv, hc, -⟩ := Literal.exists_last_render h
  rw [toList_render_constant, hv, ← List.cons_append, ← List.append_assoc]
  exact Text.trimEnd_concat_of_not_blank hc _

theorem trimEnd_render_symbol (t : Ty Pointee) (name : String) :
    trimEnd (render (constant t (.symbol name))).toList =
      (render t).toList ++ ' ' :: '@' :: trimEnd name.toList := by
  rw [toList_render_constant, Literal.toList_render_symbol]
  have ha : (render t).toList ++ ' ' :: '@' :: name.toList =
      ((render t).toList ++ [' ']) ++ '@' :: name.toList := by simp
  rw [ha, Text.trimEnd_append_cons_of_not_blank (by decide)]
  simp

/-- Whatever the value is, the space in front of it stays. -/
theorem exists_trimEnd_render_constant (t : Ty Pointee) (v : Literal) :
    ∃ tail, trimEnd (render (constant t v)).toList = (render t).toList ++ ' ' :: tail := by
  by_cases h : ∃ name, v = .symbol name
  · obtain ⟨name, rfl⟩ := h
    exact ⟨_, trimEnd_render_symbol t name⟩
  · have hv : ∀ name, v ≠ .symbol name := fun name he => h ⟨name, he⟩
    exact ⟨_, by rw [trimEnd_render_literal t hv, toList_render_constant]⟩

/-! ## What an operand is read as -/

/-- What the reader of types makes of the text of an operand. -/
inductive ReadsAs : Operand Pointee → Except ParseError (Ty Pointee) → Prop
  /-- A variable is no type. -/
  | var (t : Ty Pointee) (name : String) :
    ReadsAs (var t name) (.error (.unknownType (render (var t name))))
  /-- A constant of a scalar type is none, without the blanks that a symbol may end with. -/
  | scalar (s : Scalar) (v : Literal) : ReadsAs (constant (.scalar s) v)
      (.error (.unknownType (trimmedEnd (render (constant (.scalar s) v : Operand Pointee)))))
  /-- Behind a reference, a literal that is no symbol ends with no bracket. -/
  | literal (target : Pointee) (v : Literal) : (∀ name, v ≠ .symbol name) →
    ReadsAs (constant (.ref target) v)
      (.error (.unterminatedReference (render (constant (.ref target) v))))
  /-- Nor does a symbol, if its name does not. -/
  | symbol (target : Pointee) (name : String) : (∀ k, trimmedEnd name ≠ k ++ ">") →
    ReadsAs (constant (.ref target) (.symbol name))
      (.error (.unterminatedReference
        (trimmedEnd (render (constant (.ref target) (.symbol name))))))
  /-- Between the first bracket and the last, a label with more behind it is no label. -/
  | label (l : Label) (name k : String) : trimmedEnd name = k ++ ">" →
    ReadsAs (constant (.toLabel l) (.symbol name))
      (.error (.unknownLabel (l.name ++ "> @" ++ trimmedEnd k)))
  /-- The name of a class with more behind it is the name of a class. -/
  | object (n name k : String) : trimmedEnd name = k ++ ">" →
    ReadsAs (constant (.toClass n) (.symbol name)) (.ok (.toClass (n ++ "> @" ++ k)))

theorem exists_readsAs (o : Operand Pointee) : ∃ r, ReadsAs o r := by
  cases o with
  | var t name => exact ⟨_, .var t name⟩
  | constant t v =>
    cases t with
    | scalar s => exact ⟨_, .scalar s v⟩
    | ref target =>
      by_cases hv : ∃ name, v = .symbol name
      · obtain ⟨name, rfl⟩ := hv
        by_cases hk : ∃ k, trimmedEnd name = k ++ ">"
        · obtain ⟨k, hk⟩ := hk
          cases target with
          | label l => exact ⟨_, .label l name k hk⟩
          | object c => exact ⟨_, .object c.name name k hk⟩
        · exact ⟨_, .symbol target name fun k h => hk ⟨k, h⟩⟩
      · exact ⟨_, .literal target v fun name h => hv ⟨name, h⟩⟩

/-! ## One lemma for each -/

theorem parse_render_var (t : Ty Pointee) (name : String) :
    Ty.parse (render (var t name)) = .error (.unknownType (render (var t name))) := by
  rw [Ty.parse_eq_error_iff, trim_render_var]
  refine ⟨?_, ?_, fun s => ?_, String.ofList_toList.symm⟩ <;> rw [toList_render_var]
  · simp
  · simp
  · cases s <;> simp [Scalar.name]

theorem parse_render_scalar (s : Scalar) (v : Literal) :
    Ty.parse (render (constant (.scalar s) v : Operand Pointee)) =
      .error (.unknownType (trimmedEnd (render (constant (.scalar s) v : Operand Pointee)))) := by
  obtain ⟨tail, ht⟩ := exists_trimEnd_render_constant (.scalar s) v
  have hspace : ∀ s' : Scalar, ' ' ∉ s'.name.toList := by
    intro s'
    cases s' <;> decide
  rw [Ty.parse_eq_error_iff, trim_render_constant]
  refine ⟨?_, ?_, fun s' h => ?_, rfl⟩
  · rw [ht]
    simp
  · rw [ht]
    cases s <;> simp [render, Scalar.name]
  · apply hspace s'
    rw [← h, ht]
    simp

/-- A constant of a reference type begins as a reference. -/
theorem render_ref_append (target : Pointee) (tail : List Char) :
    (render (Ty.ref target)).toList ++ tail =
      "ptr<".toList ++ ((render target).toList ++ '>' :: tail) := by
  rw [Ty.toList_render_ref, Ty.reference]
  simp

theorem parse_render_unterminated {target : Pointee} {v : Literal} {c : Char} (tail : List Char)
    (h : trimEnd (render (constant (.ref target) v)).toList =
      (render (Ty.ref target)).toList ++ (tail ++ [c])) (hc : c ≠ '>') :
    Ty.parse (render (constant (.ref target) v)) =
      .error (.unterminatedReference (trimmedEnd (render (constant (.ref target) v)))) := by
  rw [Ty.parse_eq_error_iff, trim_render_constant]
  refine ⟨_, by rw [h, render_ref_append], fun hs => ?_, rfl⟩
  obtain ⟨front, hf⟩ := hs
  have hl := congrArg List.getLast? hf
  rw [← List.cons_append, ← List.append_assoc, List.getLast?_concat, List.getLast?_concat,
    Option.some.injEq] at hl
  exact hc hl.symm

theorem parse_render_literal {target : Pointee} {v : Literal} (h : ∀ name, v ≠ .symbol name) :
    Ty.parse (render (constant (.ref target) v)) =
      .error (.unterminatedReference (render (constant (.ref target) v))) := by
  obtain ⟨u, c, hv, -, hc⟩ := Literal.exists_last_render h
  have ht := trimEnd_render_literal (.ref target) h
  have hs : trimmedEnd (render (constant (.ref target) v)) = render (constant (.ref target) v) := by
    rw [trimmedEnd, ht, String.ofList_toList]
  rw [toList_render_constant, hv] at ht
  rw [parse_render_unterminated (' ' :: u) ?_ hc, hs]
  rw [toList_render_constant, hv, ht]
  rfl

theorem parse_render_open_symbol {target : Pointee} {name : String}
    (h : ∀ k, trimmedEnd name ≠ k ++ ">") :
    Ty.parse (render (constant (.ref target) (.symbol name))) =
      .error (.unterminatedReference
        (trimmedEnd (render (constant (.ref target) (.symbol name))))) := by
  have ht := trimEnd_render_symbol (.ref target) name
  rcases List.eq_nil_or_concat' (trimEnd name.toList) with h0 | ⟨u, c, hu⟩
  · rw [h0] at ht
    exact parse_render_unterminated [' '] ht (by decide)
  · rw [hu] at ht
    refine parse_render_unterminated (' ' :: '@' :: u) ht fun hc => ?_
    subst hc
    apply h (String.ofList u)
    rw [Text.trimmedEnd_eq_append_iff, String.toList_ofList, hu]

/-- From the first bracket of the type to the last of the symbol there is one reference. -/
theorem trim_render_closed_symbol {name k : String} (h : trimmedEnd name = k ++ ">")
    (target : Pointee) : trim (render (constant (.ref target) (.symbol name))).toList =
      Ty.reference ((render target).toList ++ '>' :: ' ' :: '@' :: k.toList) := by
  rw [trim_render_constant, trimEnd_render_symbol, Text.trimmedEnd_eq_append_iff.1 h,
    render_ref_append, Ty.reference]
  simp

theorem parse_render_label {name k : String} (h : trimmedEnd name = k ++ ">") (l : Label) :
    Ty.parse (render (constant (.toLabel l) (.symbol name))) =
      .error (.unknownLabel (l.name ++ "> @" ++ trimmedEnd k)) := by
  have hbracket : ∀ m : Label, '>' ∉ m.name.toList := by
    intro m
    cases m <;> decide
  have htrim : trim ((render (Pointee.label l)).toList ++ '>' :: ' ' :: '@' :: k.toList) =
      l.name.toList ++ '>' :: ' ' :: '@' :: trimEnd k.toList := by
    have ha : (render (Pointee.label l)).toList ++ '>' :: ' ' :: '@' :: k.toList =
      (l.name.toList ++ ['>', ' ']) ++ '@' :: k.toList := by simp [render]
    rw [ha, List.append_assoc, Text.trim_solid_append (Ty.solid_label_name l),
      ← List.append_assoc, Text.trimEnd_append_cons_of_not_blank (by decide)]
    simp
  rw [Ty.parse_eq_error_iff, Ty.toLabel, trim_render_closed_symbol h]
  refine ⟨_, rfl, ?_, ?_, fun m hm => ?_, ?_⟩
  · cases l <;> simp [render, Label.name]
  · cases l <;> simp [render, Label.name]
  · apply hbracket m
    rw [← hm, htrim]
    simp
  · rw [htrim, ← String.toList_inj]
    simp [trimmedEnd]

theorem parse_render_object {name k : String} (h : trimmedEnd name = k ++ ">") (n : String) :
    Ty.parse (render (constant (.toClass n) (.symbol name))) =
      .ok (.toClass (n ++ "> @" ++ k)) := by
  have hf : trim (render (constant (.toClass n) (.symbol name))).toList =
      (Ty.Form.object (n ++ "> @" ++ k)).chars := by
    rw [Ty.toClass, trim_render_closed_symbol h]
    simp [Ty.Form.chars, render]
  rw [Ty.parse, hf, Ty.parseTrimmed_chars]
  rfl

theorem parse_render_of_readsAs {o : Operand Pointee} {r : Except ParseError (Ty Pointee)}
    (h : ReadsAs o r) : Ty.parse (render o) = r := by
  cases h with
  | var t name => exact parse_render_var t name
  | scalar s v => exact parse_render_scalar s v
  | literal target v hv => exact parse_render_literal hv
  | symbol target name hk => exact parse_render_open_symbol hk
  | label l name k hk => exact parse_render_label hk l
  | object n name k hk => exact parse_render_object hk n

theorem parse_render_eq_iff {o : Operand Pointee} {r : Except ParseError (Ty Pointee)} :
    Ty.parse (render o) = r ↔ ReadsAs o r := by
  refine ⟨fun he => ?_, parse_render_of_readsAs⟩
  obtain ⟨r', h⟩ := exists_readsAs o
  rw [← he, parse_render_of_readsAs h]
  exact h

/-! ## When it is a type -/

theorem readsAs_ok_iff {o : Operand Pointee} {t : Ty Pointee} : ReadsAs o (.ok t) ↔
    ∃ n name k, o = constant (.toClass n) (.symbol name) ∧ trimmedEnd name = k ++ ">" ∧
      t = .toClass (n ++ "> @" ++ k) := by
  constructor
  · intro h
    cases h with
    | object n name k hk => exact ⟨n, name, k, rfl, hk, rfl⟩
  · intro h
    obtain ⟨n, name, k, rfl, hk, rfl⟩ := h
    exact .object n name k hk

theorem toClass_append_ne (n k : String) : Ty.toClass (n ++ "> @" ++ k) ≠ .toClass n := by
  intro h
  have hn : n ++ "> @" ++ k = n := by simpa [Ty.toClass] using h
  have hl := congrArg String.length hn
  rw [String.length_append, String.length_append] at hl
  have h3 : "> @".length = 3 := rfl
  omega

/-- The text of an operand is read as a type just if the operand is a constant of a class and
its value a symbol that ends with a bracket. The type that is read refers to a class with a
longer name, so it is not that of the operand. Every other operand is refused, for the cause
and with the text that `ReadsAs` gives. -/
theorem parse_render_iff_readsAs (o : Operand Pointee) :
    (∀ r, Ty.parse (render o) = r ↔ ReadsAs o r) ∧
    (∀ t, Ty.parse (render o) = .ok t ↔ ∃ n name k, o = constant (.toClass n) (.symbol name) ∧
      trimmedEnd name = k ++ ">" ∧ t = .toClass (n ++ "> @" ++ k)) ∧
    Ty.parse (render o) ≠ .ok o.ty := by
  refine ⟨fun r => parse_render_eq_iff, fun t => ?_, fun h => ?_⟩
  · rw [parse_render_eq_iff, readsAs_ok_iff]
  · obtain ⟨n, name, k, rfl, -, ht⟩ := readsAs_ok_iff.1 (parse_render_eq_iff.1 h)
    exact toClass_append_ne n k ht.symm

/-- The symbol closes the reference that the type opens. -/
example : Ty.parse (render (constant (.toClass "A") (.symbol "B>\n"))) =
    .ok (.toClass "A> @B") := rfl

end Operand

end TypeLattice
