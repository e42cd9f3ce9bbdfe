import TypeLattice.Proofs.Ty.Grammar

/-!
# The reader against the grammar

`parse` decides between the spellings of `Grammar` and its causes of refusal: each shape of
a trimmed text has one lemma that says what the reader makes of it, and the shapes are all
texts.

Results:

* `parse_render_lossless`: every type is read back from its written form, of which trimming
  and the last `>` take no character of a class name; different types are written apart;
* `parse_eq_ok_iff_spelling`: a text is read as a type exactly if it spells the type, and
  it spells one in one way only;
* `parse_eq_error_iff_refuses`: a text is refused for a cause exactly if the condition of
  the cause holds of its trimmed form, and no two conditions hold of one text.
-/
namespace TypeLattice.Ty

open Text (Blanks Solid isBlank trim)

/-! ## Between the brackets -/

theorem after?_class_eq_none {inner : List Char} (h : ∀ rest, inner ≠ 'c' :: rest) :
    Text.after? "class ".toList inner = none :=
  Text.after?_eq_none_iff.2 fun ⟨rest, hr⟩ => h ("lass ".toList ++ rest) hr.symm

theorem parsePointee_label (w : Blanks) (l : Label) (v : Blanks) :
    parsePointee (w.chars ++ l.name.toList ++ v.chars) = .ok (.label l) := by
  have hc := label_inner_ne_class w l v
  have hw : w.chars ++ l.name.toList ++ v.chars ≠ "class".toList := hc "lass".toList
  rw [parsePointee, if_neg hw, after?_class_eq_none hc,
    Text.trim_blanks_around (solid_label_name l), String.ofList_toList]
  simp only [Label.ofName?_name]

theorem parsePointee_object (name : List Char) :
    parsePointee ("class ".toList ++ name) = .ok (.object ⟨String.ofList name⟩) := by
  rw [parsePointee, if_neg (by simp), Text.after?_eq_some_iff.2 rfl]

theorem parsePointee_unknown {inner : List Char} (hc : inner ≠ "class".toList)
    (hp : ¬"class ".toList <+: inner) (hl : ∀ l : Label, trim inner ≠ l.name.toList) :
    parsePointee inner = .error (.unknownLabel (String.ofList (trim inner))) := by
  have hn : Label.ofName? (String.ofList (trim inner)) = none := by
    rw [Option.eq_none_iff_forall_ne_some]
    intro l h
    apply hl l
    rw [← Label.ofName?_eq_some_iff.1 h, String.toList_ofList]
  rw [parsePointee, if_neg hc, Text.after?_eq_none_iff.2 hp]
  simp only [hn]

/-! ## A trimmed text -/

theorem parseTrimmed_reference (inner : List Char) :
    parseTrimmed (reference inner) = (parsePointee inner).map .ref := by
  have hp : Text.after? "ptr<".toList (reference inner) = some (inner ++ ['>']) :=
    Text.after?_eq_some_iff.2 (by rw [reference, List.append_assoc])
  have hs : Text.before? '>' (inner ++ ['>']) = some inner := Text.before?_eq_some_iff.2 rfl
  rw [parseTrimmed, if_neg (by simp [reference]), hp]
  simp only [hs]

theorem parseTrimmed_scalar (s : Scalar) : parseTrimmed s.name.toList = .ok (.scalar s) := by
  have h0 : s.name.toList ≠ [] := fun h => by
    have := (solid_scalar_name s).1
    rw [h] at this; cases this
  rw [parseTrimmed, if_neg h0, Text.after?_eq_none_iff.2 (not_ref_prefix_scalar_name s)]
  simp only [String.ofList_toList, Scalar.ofName?_name]

/-- The reader gives what a form spells. -/
theorem parseTrimmed_chars (f : Form) : parseTrimmed f.chars = .ok f.ty := by
  cases f with
  | scalar s => exact parseTrimmed_scalar s
  | label w l v => rw [Form.chars, parseTrimmed_reference, parsePointee_label]; rfl
  | object name =>
    rw [Form.chars, parseTrimmed_reference, parsePointee_object, String.ofList_toList]; rfl

/-- The reader gives the cause of a refusal. -/
theorem parseTrimmed_of_refuses {u : List Char} {e : ParseError} (h : Refuses u e) :
    parseTrimmed u = .error e := by
  cases e with
  | empty => rw [show u = [] from h]; rfl
  | unknownType d =>
    obtain ⟨h0, hp, hs, rfl⟩ := h
    have hn : Scalar.ofName? (String.ofList u) = none := by
      rw [Option.eq_none_iff_forall_ne_some]
      intro s h
      apply hs s
      rw [← Scalar.ofName?_eq_some_iff.1 h, String.toList_ofList]
    rw [parseTrimmed, if_neg h0, Text.after?_eq_none_iff.2 hp]
    simp only [hn]
  | unterminatedReference d =>
    obtain ⟨rest, rfl, hs, rfl⟩ := h
    rw [parseTrimmed, if_neg (by simp), Text.after?_eq_some_iff.2 rfl]
    simp only [Text.before?_eq_none_iff.2 hs]
  | unnamedClass =>
    rw [show u = reference "class".toList from h, parseTrimmed_reference]; rfl
  | unknownLabel d =>
    obtain ⟨inner, rfl, hc, hp, hl, rfl⟩ := h
    rw [parseTrimmed_reference, parsePointee_unknown hc hp hl]; rfl

theorem parseTrimmed_eq_ok_iff {u : List Char} {t : Ty Pointee} :
    parseTrimmed u = .ok t ↔ ∃ f : Form, f.chars = u ∧ f.ty = t := by
  constructor
  · intro h
    rcases exists_form_or_refuses u with ⟨f, rfl⟩ | ⟨e, he⟩
    · rw [parseTrimmed_chars] at h
      exact ⟨f, rfl, Except.ok.inj h⟩
    · rw [parseTrimmed_of_refuses he] at h; cases h
  · intro h
    obtain ⟨f, rfl, rfl⟩ := h
    exact parseTrimmed_chars f

theorem parseTrimmed_eq_error_iff {u : List Char} {e : ParseError} :
    parseTrimmed u = .error e ↔ Refuses u e := by
  refine ⟨fun h => ?_, parseTrimmed_of_refuses⟩
  rcases exists_form_or_refuses u with ⟨f, rfl⟩ | ⟨e', he⟩
  · rw [parseTrimmed_chars] at h; cases h
  · rw [parseTrimmed_of_refuses he] at h
    rwa [← Except.error.inj h]

/-! ## Written forms -/

theorem trim_render (t : Ty Pointee) : trim (render t).toList = (render t).toList :=
  Text.trim_eq_self_of_solid (solid_render t)

theorem parse_render (t : Ty Pointee) : parse (render t) = .ok t := by
  rw [parse, trim_render, ← Form.chars_ofTy, parseTrimmed_chars, Form.ty_ofTy]

theorem render_injective {t u : Ty Pointee} (h : render t = render u) : t = u := by
  have := parse_render t
  rw [h, parse_render] at this
  exact (Except.ok.inj this).symm

/-- Every type is read back from its written form. The outer trimming takes no character of
it, what stands between the brackets is the class name as it is, and no two types are
written alike. -/
theorem parse_render_lossless :
    (∀ t : Ty Pointee, parse (render t) = .ok t) ∧
    (∀ t : Ty Pointee, trim (render t).toList = (render t).toList) ∧
    (∀ name : String, (Text.after? "ptr<".toList (render (toClass name)).toList).bind
      (Text.before? '>') = some ("class ".toList ++ name.toList)) ∧
    ∀ t u : Ty Pointee, render t = render u ↔ t = u := by
  refine ⟨parse_render, trim_render, fun name => ?_, fun t u => ⟨render_injective, congrArg _⟩⟩
  have hr : (render (toClass name)).toList =
      "ptr<".toList ++ ("class ".toList ++ name.toList ++ ['>']) := by
    rw [← Form.chars_ofTy]; rfl
  rw [Text.after?_eq_some_iff.2 hr]
  exact Text.before?_eq_some_iff.2 rfl

/-! ## What is read -/

/-- A text is read as a type exactly if it is a spelling of the type. A text has at most one
spelling, so at most one of the three forms and one type; and what trimming leaves of it is
the form, whose last character is the `>` that ends a class name. -/
theorem parse_eq_ok_iff_spelling :
    (∀ (text : String) (t : Ty Pointee),
      parse text = .ok t ↔ ∃ sp : Spelling, sp.text = text ∧ sp.ty = t) ∧
    (∀ sp sp' : Spelling, sp.text = sp'.text ↔ sp = sp') ∧
    ∀ sp : Spelling, trim sp.text.toList = sp.form.chars := by
  refine ⟨fun text t => ⟨fun h => ?_, ?_⟩,
    fun _ _ => ⟨Spelling.text_injective, congrArg _⟩, Spelling.trim_text⟩
  · obtain ⟨f, hf, rfl⟩ := parseTrimmed_eq_ok_iff.1 h
    obtain ⟨sp, hsp, rfl⟩ := exists_spelling_of_trim hf
    exact ⟨sp, hsp, rfl⟩
  · intro h
    obtain ⟨sp, rfl, rfl⟩ := h
    rw [parse, sp.trim_text, parseTrimmed_chars]; rfl

/-- Reading a type and writing it again deletes characters and adds none. -/
theorem render_sublist_of_parse {text : String} {t : Ty Pointee} (h : parse text = .ok t) :
    (render t).toList.Sublist text.toList := by
  obtain ⟨f, hf, rfl⟩ := parseTrimmed_eq_ok_iff.1 h
  obtain ⟨w, v, htext⟩ := Text.exists_blanks_trim text.toList
  have hf' := f.render_ty_sublist_chars
  rw [hf] at hf'
  rw [htext]
  exact hf'.trans ((List.sublist_append_right w.chars _).trans (List.sublist_append_left _ v.chars))

/-! ## What is refused -/

theorem parse_eq_error_iff {text : String} {e : ParseError} :
    parse text = .error e ↔ Refuses (trim text.toList) e := parseTrimmed_eq_error_iff

/-- No two causes apply to one text. -/
theorem Refuses.unique {u : List Char} {e e' : ParseError} (h : Refuses u e)
    (h' : Refuses u e') : e = e' := by
  have := parseTrimmed_of_refuses h
  rw [parseTrimmed_of_refuses h'] at this
  exact (Except.error.inj this).symm

/-- What trims to a text that begins with the word of classes is no label. -/
theorem refuses_class_word {inner : List Char} (rest : List Char)
    (h : trim inner = trim ("class".toList ++ rest)) (hc : inner ≠ "class".toList)
    (hp : ¬"class ".toList <+: inner) :
    Refuses (reference inner) (.unknownLabel (String.ofList (trim ("class".toList ++ rest)))) :=
  ⟨inner, rfl, hc, hp, fun l hl => trim_ne_label_name ("lass".toList ++ rest) l (h ▸ hl), by rw [h]⟩

/-- A text is refused for a cause exactly if the condition of the cause holds of its trimmed
form, and read if no condition does. Two conditions never hold together. In particular,
blanks in front of the word of classes, or a tab behind it, make an unknown label of what
stands between the brackets. -/
theorem parse_eq_error_iff_refuses (text : String) :
    (∀ e, parse text = .error e ↔ Refuses (trim text.toList) e) ∧
    ((∃ t, parse text = .ok t) ↔ ∀ e, ¬Refuses (trim text.toList) e) ∧
    (∀ e e', Refuses (trim text.toList) e ∧ Refuses (trim text.toList) e' ↔
      Refuses (trim text.toList) e ∧ e = e') ∧
    (∀ (w : Blanks) (rest : List Char), w.chars ≠ [] →
      trim text.toList = reference (w.chars ++ ("class".toList ++ rest)) →
      parse text = .error (.unknownLabel (String.ofList (trim ("class".toList ++ rest))))) ∧
    ∀ rest : List Char, trim text.toList = reference ("class\t".toList ++ rest) →
      parse text = .error (.unknownLabel (String.ofList (trim ("class\t".toList ++ rest)))) := by
  refine ⟨fun e => parse_eq_error_iff, ⟨?_, fun h => ?_⟩,
    fun e e' => ⟨fun ⟨h, h'⟩ => ⟨h, h.unique h'⟩, ?_⟩, ?_, ?_⟩
  · intro ⟨t, ht⟩ e he
    rw [parse_eq_error_iff.2 he] at ht; cases ht
  · cases hr : parse text with
    | ok t => exact ⟨t, rfl⟩
    | error e => exact absurd (parse_eq_error_iff.1 hr) (h e)
  · intro h
    obtain ⟨h, rfl⟩ := h
    exact ⟨h, h⟩
  · intro w rest hw ht
    obtain ⟨c, w', hcw⟩ := List.exists_cons_of_ne_nil hw
    have hb : isBlank c = true := List.all_eq_true.1 w.blank c (by simp [hcw])
    have hne : c ≠ 'c' := by intro he; subst he; exact absurd hb (by decide)
    rw [parse_eq_error_iff, ht]
    refine refuses_class_word rest (Text.trim_blanks_append w _) ?_ ?_
    · rw [hcw]; simp [hne]
    · rw [hcw]; simp [hne.symm]
  · intro rest ht
    rw [parse_eq_error_iff, ht]
    exact refuses_class_word ('\t' :: rest) rfl (by simp) (by simp)

/-- Both kinds of blank around the word of classes. -/
theorem parse_blank_around_class :
    parse " ptr< \tclass A>" = .error (.unknownLabel "class A") ∧
    parse "ptr<class\tA >" = .error (.unknownLabel "class\tA") := by
  constructor
  · exact (parse_eq_error_iff_refuses " ptr< \tclass A>").2.2.2.1 ⟨[' ', '\t'], by decide⟩
      " A".toList (by decide) (by decide)
  · exact (parse_eq_error_iff_refuses "ptr<class\tA >").2.2.2.2 "A ".toList (by decide)

end TypeLattice.Ty
