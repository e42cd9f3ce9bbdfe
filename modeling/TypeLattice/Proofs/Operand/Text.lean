import TypeLattice.Operand.Basic
import TypeLattice.Proofs.Operand.Literal
import TypeLattice.Proofs.Ty.Reading

/-!
# The texts of operands

An operand is written with bare separators: a constant as its type and its value with a
space between them, a variable as its name and its type with `: `. Names and class names
are free text, so an operand is `Clear` when none of it can be taken for the separator that
ends it.

Results:

* `constant_text_injective`: the text of a constant falls apart into its type and its value
  in one way only;
* `var_text_injective`: so does the text of a variable into its name and its type;
* `render_eq_iff_same`: clear operands are written alike exactly if they are `Same`, and
  this differs from being equal at NaN and at the two zeros only.
-/
namespace TypeLattice.Operand

/-- Two variables with the same name and type, or two constants with the same type and
literals that are the same. -/
def Same : Operand Pointee → Operand Pointee → Prop
  | constant ty v, constant ty' v' => ty = ty' ∧ v.Same v'
  | var ty name, var ty' name' => ty = ty' ∧ name = name'
  | _, _ => False

/-- No separator in a name: no `: ` in that of a variable, no `> ` in that of the class that
the type of a constant refers to. -/
def Clear : Operand Pointee → Prop
  | constant ty _ => ∀ name, ty = .toClass name → ¬['>', ' '] <:+: name.toList
  | var _ name => ¬[':', ' '] <:+: name.toList

/-! ## Types in front of a value -/

/-- A type that refers to no class is written without spaces, and as no part of one that
does. -/
theorem class_or_no_space (t : Ty Pointee) : (∃ name, t = .toClass name) ∨
    ' ' ∉ (render t).toList ∧ (render t).toList ≠ "ptr<class".toList := by
  rcases t with s | l | c
  · right; cases s <;> decide
  · right; cases l <;> decide
  · exact .inl ⟨c.name, rfl⟩

theorem toList_render_toClass (name : String) :
    (render (Ty.toClass name)).toList = "ptr<class ".toList ++ (name.toList ++ ['>']) := by
  rw [← Ty.Form.chars_ofTy]; rfl

theorem render_toClass_append (name : String) (v : List Char) :
    (render (Ty.toClass name)).toList ++ ' ' :: v =
      "ptr<class".toList ++ ' ' :: (name.toList ++ '>' :: ' ' :: v) := by
  rw [toList_render_toClass]; simp

/-- The first space of a text that begins with the type of a class is the one in the type. -/
theorem no_space_ne_class {t : Ty Pointee} {name : String} {v v' : List Char}
    (hs : ' ' ∉ (render t).toList) (hc : (render t).toList ≠ "ptr<class".toList) :
    (render t).toList ++ ' ' :: v ≠ (render (Ty.toClass name)).toList ++ ' ' :: v' := by
  intro h
  rw [render_toClass_append] at h
  exact hc (Text.append_mark_injective hs (by decide) h).1

theorem type_before_space_injective {t t' : Ty Pointee} {v v' : List Char}
    (ht : ∀ name, t = .toClass name → ¬['>', ' '] <:+: name.toList)
    (ht' : ∀ name, t' = .toClass name → ¬['>', ' '] <:+: name.toList)
    (h : (render t).toList ++ ' ' :: v = (render t').toList ++ ' ' :: v') :
    t = t' ∧ v = v' := by
  rcases class_or_no_space t with ⟨name, rfl⟩ | ⟨hs, hc⟩
  · rcases class_or_no_space t' with ⟨name', rfl⟩ | ⟨hs', hc'⟩
    · rw [render_toClass_append, render_toClass_append] at h
      have hn := (List.cons.inj (List.append_cancel_left h)).2
      obtain ⟨hname, hv⟩ := Text.append_pair_injective (by decide) (ht name rfl) (ht' name' rfl) hn
      exact ⟨by rw [String.toList_injective hname], hv⟩
    · exact absurd h.symm (no_space_ne_class hs' hc')
  · rcases class_or_no_space t' with ⟨name', rfl⟩ | ⟨hs', -⟩
    · exact absurd h (no_space_ne_class hs hc)
    · obtain ⟨hr, hv⟩ := Text.append_mark_injective hs hs' h
      exact ⟨Ty.render_injective (String.toList_injective hr), hv⟩

/-! ## Whole operands -/

theorem toList_render_constant (t : Ty Pointee) (v : Literal) :
    (render (constant t v)).toList = (render t).toList ++ ' ' :: (render v).toList := by
  show (render t ++ " " ++ render v).toList = _
  simp

theorem toList_render_var (t : Ty Pointee) (name : String) :
    (render (var t name)).toList = '%' :: (name.toList ++ ':' :: ' ' :: (render t).toList) := by
  show ("%" ++ name ++ ": " ++ render t).toList = _
  simp

theorem constant_text_injective {t t' : Ty Pointee} {v v' : Literal} (ha : (constant t v).Clear)
    (hb : (constant t' v').Clear) (h : render (constant t v) = render (constant t' v')) :
    t = t' ∧ v.Same v' := by
  have hl := congrArg String.toList h
  rw [toList_render_constant, toList_render_constant] at hl
  obtain ⟨ht, hv⟩ := type_before_space_injective ha hb hl
  exact ⟨ht, Literal.same_of_render_eq (String.toList_injective hv)⟩

theorem var_text_injective {t t' : Ty Pointee} {name name' : String} (ha : (var t name).Clear)
    (hb : (var t' name').Clear) (h : render (var t name) = render (var t' name')) :
    t = t' ∧ name = name' := by
  have hl := congrArg String.toList h
  rw [toList_render_var, toList_render_var] at hl
  obtain ⟨hn, ht⟩ := Text.append_pair_injective (by decide) ha hb (List.cons.inj hl).2
  exact ⟨Ty.render_injective (String.toList_injective ht), String.toList_injective hn⟩

/-- No type begins with the sign of variables. -/
theorem constant_text_ne_var_text (t t' : Ty Pointee) (v : Literal) (name : String) :
    render (constant t v) ≠ render (var t' name) := by
  intro h
  have hl := congrArg String.toList h
  rw [toList_render_constant, toList_render_var] at hl
  have hh := congrArg List.head? hl
  rw [List.head?_append] at hh
  have ht : (render t).toList.head? ≠ some '%' ∧ (render t).toList.head? ≠ none := by
    rcases t with s | l | c
    · cases s <;> decide
    · cases l <;> decide
    · rw [show Ty.ref (.object c) = Ty.toClass c.name from rfl, toList_render_toClass]; simp
  cases hc : (render t).toList.head? with
  | none => exact ht.2 hc
  | some d => rw [hc] at hh; exact ht.1 (by rw [hc]; simpa using hh)

theorem same_of_render_eq {a b : Operand Pointee} (ha : a.Clear) (hb : b.Clear)
    (h : render a = render b) : a.Same b := by
  cases a with
  | constant t v =>
    cases b with
    | constant t' v' => exact constant_text_injective ha hb h
    | var t' name => exact constant_text_ne_var_text t t' v name h
  | var t name =>
    cases b with
    | constant t' v' => exact constant_text_ne_var_text t' t v' name h.symm
    | var t' name' => exact var_text_injective ha hb h

theorem render_eq_of_same {a b : Operand Pointee} (h : a.Same b) : render a = render b := by
  cases a with
  | constant t v =>
    cases b with
    | constant t' v' =>
      obtain ⟨rfl, hv⟩ := h
      show render t ++ " " ++ render v = render t ++ " " ++ render v'
      rw [Literal.render_eq_of_same hv]
    | var t' name => exact h.elim
  | var t name =>
    cases b with
    | constant t' v' => exact h.elim
    | var t' name' => obtain ⟨rfl, rfl⟩ := h; rfl

/-! ## Being written alike and being equal -/

theorem same_and_not_equals_iff {a b : Operand Pointee} : a.Same b ∧ a.equals b = false ↔
    ∃ ty x y, a = constant ty (.float x) ∧ b = constant ty (.float y) ∧
      x.isNaN = true ∧ y.isNaN = true := by
  constructor
  · intro h
    obtain ⟨hs, he⟩ := h
    cases a with
    | constant t v =>
      cases b with
      | constant t' v' =>
        obtain ⟨rfl, hv⟩ := hs
        have hne : v.equals v' = false := by simpa [equals] using he
        obtain ⟨x, y, rfl, rfl, hxy⟩ := Literal.same_and_not_equals_iff.1 ⟨hv, hne⟩
        exact ⟨t, x, y, rfl, rfl, hxy⟩
      | var t' name => exact hs.elim
    | var t name =>
      cases b with
      | constant t' v => exact hs.elim
      | var t' name' => obtain ⟨rfl, rfl⟩ := hs; simp [equals] at he
  · intro h
    obtain ⟨ty, x, y, rfl, rfl, hxy⟩ := h
    obtain ⟨hs, he⟩ := Literal.same_and_not_equals_iff.2 ⟨x, y, rfl, rfl, hxy⟩
    exact ⟨⟨rfl, hs⟩, by simp [equals, he]⟩

theorem equals_and_not_same_iff {a b : Operand Pointee} : ¬a.Same b ∧ a.equals b = true ↔
    ∃ ty x y, a = constant ty (.float x) ∧ b = constant ty (.float y) ∧
      x.isZero = true ∧ y.isZero = true ∧ x.isNegative ≠ y.isNegative := by
  constructor
  · intro h
    obtain ⟨hs, he⟩ := h
    cases a with
    | constant t v =>
      cases b with
      | constant t' v' =>
        obtain ⟨rfl, hv⟩ : t = t' ∧ v.equals v' = true := by simpa [equals] using he
        have hns : ¬v.Same v' := fun h => hs ⟨rfl, h⟩
        obtain ⟨x, y, rfl, rfl, hxy⟩ := Literal.equals_and_not_same_iff.1 ⟨hns, hv⟩
        exact ⟨t, x, y, rfl, rfl, hxy⟩
      | var t' name => cases he
    | var t name =>
      cases b with
      | constant t' v => cases he
      | var t' name' => exact absurd (by simpa [equals, Same] using he) hs
  · intro h
    obtain ⟨ty, x, y, rfl, rfl, hxy⟩ := h
    obtain ⟨hs, he⟩ := Literal.equals_and_not_same_iff.2 ⟨x, y, rfl, rfl, hxy⟩
    exact ⟨fun h => hs h.2, by simp [equals, he]⟩

/-- Clear operands are written alike exactly if they are the same. So they are written alike
without being equal only as constants that are no number, and equal without being written
alike only as the two zeros. No integer is written like another sort of literal, and no
string like a character. -/
theorem render_eq_iff_same {a b : Operand Pointee} (ha : a.Clear) (hb : b.Clear) :
    (render a = render b ↔ a.Same b) ∧
    (render a = render b ∧ a.equals b = false ↔
      ∃ ty x y, a = constant ty (.float x) ∧ b = constant ty (.float y) ∧
        x.isNaN = true ∧ y.isNaN = true) ∧
    (render a ≠ render b ∧ a.equals b = true ↔
      ∃ ty x y, a = constant ty (.float x) ∧ b = constant ty (.float y) ∧
        x.isZero = true ∧ y.isZero = true ∧ x.isNegative ≠ y.isNegative) ∧
    (∀ (i : Int64) (x : Binary64) (c : Bool) (name : String),
      render (Literal.int i) ≠ render (Literal.float x) ∧
      render (Literal.int i) ≠ render (Literal.bool c) ∧
      render (Literal.int i) ≠ render (Literal.symbol name)) ∧
    ∀ (s : String) (c : Char), render (Literal.string s) ≠ render (Literal.char c) := by
  have h : render a = render b ↔ a.Same b := ⟨same_of_render_eq ha hb, render_eq_of_same⟩
  refine ⟨h, ?_, ?_, fun i x c name => ⟨?_, ?_, ?_⟩, fun s c => ?_⟩
  · rw [h]; exact same_and_not_equals_iff
  · rw [ne_eq, h]; exact equals_and_not_same_iff
  · exact Literal.render_int_ne_render_float i x
  · exact fun he => nomatch Literal.opening_eq_of_render_eq he
  · exact fun he => nomatch Literal.opening_eq_of_render_eq he
  · exact fun he => nomatch Literal.opening_eq_of_render_eq he

/-- The two zeros as constants of a type whose class name ends with the first character of
a separator. -/
theorem zeros_written_apart :
    let a := constant (.toClass "Map<K>") (.float ⟨0⟩)
    let b := constant (.toClass "Map<K>") (.float ⟨0x8000000000000000⟩)
    a.Clear ∧ b.Clear ∧ render a ≠ render b ∧ a.equals b = true := by
  have hc : ∀ name, Ty.toClass "Map<K>" = .toClass name → ¬['>', ' '] <:+: name.toList := by
    intro name h
    cases h
    decide +kernel
  exact ⟨hc, hc, (render_eq_iff_same (a := constant (.toClass "Map<K>") (.float ⟨0⟩))
    (b := constant (.toClass "Map<K>") (.float ⟨0x8000000000000000⟩)) hc hc).2.2.1.2
    ⟨_, _, _, rfl, rfl, by decide, by decide, by decide⟩⟩

end TypeLattice.Operand
