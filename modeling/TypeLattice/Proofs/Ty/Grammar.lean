import TypeLattice.Proofs.Text.Trim
import TypeLattice.Ty.Parser

/-!
# The grammar of types

How a type may be spelled, and why a text spells none, said without the reader. A `Form`
is a type from its first character to its last; a `Spelling` is a form between blanks.
`Refuses u e` is the condition on a trimmed text `u` under which the cause `e` applies to
it.

Results:

* `chars_injective`, `text_injective`: a text has one form and one spelling at the most, so
  the three kinds of form never overlap;
* `trim_text`: trimming a spelling leaves its form, whatever characters a class name has;
* `exists_form_or_refuses`: every text is a form or has a cause of refusal.
-/
namespace TypeLattice.Ty

open Text (Blanks Solid isBlank trim)

/-- What refers to the target that is spelled between the brackets. -/
def reference (inner : List Char) : List Char := "ptr<".toList ++ inner ++ ['>']

/-- A type as it is spelled, without what stands around it. -/
inductive Form where
  | scalar (s : Scalar)
  /-- A reference to a label; blanks may stand on both sides of the label. -/
  | label (before : Blanks) (l : Label) (after : Blanks)
  /-- A reference to a class; its name is free text. -/
  | object (name : String)

namespace Form

/-- The characters of the form. -/
def chars : Form → List Char
  | scalar s => s.name.toList
  | label w l v => reference (w.chars ++ l.name.toList ++ v.chars)
  | object name => reference ("class ".toList ++ name.toList)

/-- The type that is spelled. -/
def ty : Form → Ty Pointee
  | scalar s => .scalar s
  | label _ l _ => toLabel l
  | object name => toClass name

/-- The form in which a type is written. -/
def ofTy : Ty Pointee → Form
  | .scalar s => scalar s
  | .ref (.label l) => label .none l .none
  | .ref (.object c) => object c.name

end Form

/-- A form between blanks. -/
structure Spelling where
  before : Blanks
  form : Form
  after : Blanks

namespace Spelling

/-- The text of the spelling. -/
def text (sp : Spelling) : String :=
  String.ofList (sp.before.chars ++ sp.form.chars ++ sp.after.chars)

/-- The type that is spelled. -/
def ty (sp : Spelling) : Ty Pointee := sp.form.ty

end Spelling

/-- When a trimmed text is no type for this cause. -/
def Refuses (u : List Char) : ParseError → Prop
  | .empty => u = []
  | .unknownType d =>
    u ≠ [] ∧ ¬"ptr<".toList <+: u ∧ (∀ s : Scalar, u ≠ s.name.toList) ∧ d = String.ofList u
  | .unterminatedReference d =>
    ∃ rest, u = "ptr<".toList ++ rest ∧ ¬['>'] <:+ rest ∧ d = String.ofList u
  | .unnamedClass => u = reference "class".toList
  | .unknownLabel d =>
    ∃ inner, u = reference inner ∧ inner ≠ "class".toList ∧
      ¬"class ".toList <+: inner ∧ (∀ l : Label, trim inner ≠ l.name.toList) ∧
      d = String.ofList (trim inner)

/-! ## Words of the grammar -/

theorem solid_scalar_name (s : Scalar) : Solid s.name.toList := by cases s <;> decide

theorem solid_label_name (l : Label) : Solid l.name.toList := by cases l <;> decide

theorem not_ref_prefix_scalar_name (s : Scalar) : ¬"ptr<".toList <+: s.name.toList := by
  cases s <;> decide

theorem solid_reference (inner : List Char) : Solid (reference inner) :=
  Text.solid_cons_append_singleton (by decide) (by decide) ("tr<".toList ++ inner)

theorem reference_injective {i i' : List Char} (h : reference i = reference i') : i = i' :=
  List.append_cancel_left (List.append_cancel_right h)

theorem reference_sublist {i i' : List Char} (h : i.Sublist i') :
    (reference i).Sublist (reference i') :=
  (h.append_left "ptr<".toList).append_right ['>']

theorem toList_render_ref (target : Pointee) :
    (render (Ty.ref target)).toList = reference (render target).toList := by
  show ("ptr<" ++ render target ++ ">").toList = _
  rw [String.toList_append, String.toList_append]
  rfl

theorem scalar_name_ne_reference (s : Scalar) (inner : List Char) :
    s.name.toList ≠ reference inner := by
  intro h
  have ha : reference inner = "ptr<".toList ++ (inner ++ ['>']) := List.append_assoc _ _ _
  exact not_ref_prefix_scalar_name s ⟨inner ++ ['>'], by rw [h, ha]⟩

/-- A text that begins with the word of classes trims to one that begins with `c`, as the
name of no label does. -/
theorem trim_ne_label_name (rest : List Char) (l : Label) :
    trim ('c' :: rest) ≠ l.name.toList := by
  rw [Text.trim_cons_of_not_blank (by decide)]
  cases l <;> simp [Label.name]

theorem label_inner_ne_class (w : Blanks) (l : Label) (v : Blanks) (rest : List Char) :
    w.chars ++ l.name.toList ++ v.chars ≠ 'c' :: rest := by
  intro h
  have := Text.trim_blanks_around (solid_label_name l) w v
  rw [h] at this
  exact trim_ne_label_name rest l this

/-! ## One form and one spelling -/

theorem Form.solid_chars (f : Form) : Solid f.chars := by
  cases f with
  | scalar s => exact solid_scalar_name s
  | label w l v => exact solid_reference _
  | object name => exact solid_reference _

theorem Form.chars_injective {f g : Form} (h : f.chars = g.chars) : f = g := by
  cases f with
  | scalar s =>
    cases g with
    | scalar s' => rw [Scalar.name_injective (String.toList_injective h)]
    | label w l v => exact absurd h (scalar_name_ne_reference s _)
    | object name => exact absurd h (scalar_name_ne_reference s _)
  | label w l v =>
    cases g with
    | scalar s => exact absurd h.symm (scalar_name_ne_reference s _)
    | label w' l' v' =>
      obtain ⟨rfl, hl, rfl⟩ := Text.blanks_around_injective (solid_label_name l)
        (solid_label_name l') (reference_injective h)
      rw [Label.name_injective (String.toList_injective hl)]
    | object name => exact absurd (reference_injective h) (label_inner_ne_class w l v _)
  | object name =>
    cases g with
    | scalar s => exact absurd h.symm (scalar_name_ne_reference s _)
    | label w l v => exact absurd (reference_injective h).symm (label_inner_ne_class w l v _)
    | object name' =>
      rw [String.toList_injective (List.append_cancel_left (reference_injective h))]

theorem Form.ty_ofTy (t : Ty Pointee) : (Form.ofTy t).ty = t := by
  rcases t with s | l | c <;> rfl

theorem Form.chars_ofTy (t : Ty Pointee) : (Form.ofTy t).chars = (render t).toList := by
  rcases t with s | l | c
  · rfl
  · simp [Form.ofTy, Form.chars, reference, Blanks.none, render]
  · simp [Form.ofTy, Form.chars, reference, render]

theorem solid_render (t : Ty Pointee) : Solid (render t).toList := by
  rw [← Form.chars_ofTy]
  exact (Form.ofTy t).solid_chars

/-- A form holds the characters in which its type is written; what it has besides are blanks
around a label. -/
theorem Form.render_ty_sublist_chars (f : Form) : (render f.ty).toList.Sublist f.chars := by
  cases f with
  | scalar s => exact List.Sublist.refl _
  | label w l v =>
    have hl : l.name.toList.Sublist (w.chars ++ l.name.toList ++ v.chars) :=
      (List.sublist_append_right w.chars _).trans (List.sublist_append_left _ v.chars)
    rw [Form.ty, toLabel, toList_render_ref]
    exact reference_sublist hl
  | object name =>
    rw [Form.ty, toClass, ← Form.chars_ofTy]
    exact List.Sublist.refl _

theorem Spelling.trim_text (sp : Spelling) : trim sp.text.toList = sp.form.chars := by
  rw [Spelling.text, String.toList_ofList]
  exact Text.trim_blanks_around sp.form.solid_chars sp.before sp.after

theorem Spelling.text_injective {sp sp' : Spelling} (h : sp.text = sp'.text) : sp = sp' := by
  obtain ⟨w, f, v⟩ := sp
  obtain ⟨w', f', v'⟩ := sp'
  obtain ⟨rfl, hf, rfl⟩ := Text.blanks_around_injective f.solid_chars f'.solid_chars
    (String.ofList_injective h)
  rw [Form.chars_injective hf]

/-- A text spells a type as soon as its trimmed form is a form. -/
theorem exists_spelling_of_trim {text : String} {f : Form} (h : f.chars = trim text.toList) :
    ∃ sp : Spelling, sp.text = text ∧ sp.form = f := by
  obtain ⟨w, v, hw⟩ := Text.exists_blanks_trim text.toList
  refine ⟨⟨w, f, v⟩, ?_, rfl⟩
  rw [Spelling.text, h, ← hw, String.ofList_toList]

/-! ## Forms and refusals together are all texts -/

/-- What a reference may hold: a label, a class, or neither for one of two causes. -/
theorem form_or_refuses_reference (inner : List Char) :
    (∃ f : Form, f.chars = reference inner) ∨ ∃ e, Refuses (reference inner) e := by
  by_cases hc : inner = "class".toList
  · exact .inr ⟨.unnamedClass, by rw [hc]; rfl⟩
  by_cases hp : "class ".toList <+: inner
  · obtain ⟨name, rfl⟩ := hp
    exact .inl ⟨.object (String.ofList name), by rw [Form.chars, String.toList_ofList (l := name)]⟩
  by_cases hl : ∃ l : Label, trim inner = l.name.toList
  · obtain ⟨l, hl⟩ := hl
    obtain ⟨w, v, rfl⟩ := (Text.trim_eq_iff_of_solid (solid_label_name l)).1 hl
    exact .inl ⟨.label w l v, rfl⟩
  · exact .inr ⟨.unknownLabel (String.ofList (trim inner)), inner, rfl, hc, hp,
      fun l h => hl ⟨l, h⟩, rfl⟩

theorem exists_form_or_refuses (u : List Char) :
    (∃ f : Form, f.chars = u) ∨ ∃ e, Refuses u e := by
  by_cases h0 : u = []
  · exact .inr ⟨.empty, h0⟩
  by_cases hp : "ptr<".toList <+: u
  · obtain ⟨rest, rfl⟩ := hp
    by_cases hs : ['>'] <:+ rest
    · obtain ⟨inner, rfl⟩ := hs
      rw [← List.append_assoc]
      exact form_or_refuses_reference inner
    · exact .inr ⟨.unterminatedReference _, rest, rfl, hs, rfl⟩
  by_cases hs : ∃ s : Scalar, u = s.name.toList
  · obtain ⟨s, rfl⟩ := hs
    exact .inl ⟨.scalar s, rfl⟩
  · exact .inr ⟨.unknownType (String.ofList u), h0, hp, fun s h => hs ⟨s, h⟩, rfl⟩

end TypeLattice.Ty
