import TypeLattice.Text.CodePoints

/-!
# What trimming takes off

`trim` against the blanks that stand around a text. A text is `Solid` when it has a first
and a last character and neither is a blank: the trimmed form of any text is empty or
solid.

Results:

* `exists_blanks_trim`: a text is its trimmed form between two runs of blanks;
* `trim_eq_iff_of_solid`: a solid text is what is left exactly of itself between blanks;
* `takeWhile_blanks_append_solid`: the leading run ends where the solid text begins.
-/
namespace TypeLattice.Text

/-- A run of blanks. -/
@[ext]
structure Blanks where
  chars : List Char
  blank : chars.all isBlank = true

/-- No blanks. -/
def Blanks.none : Blanks := ⟨[], rfl⟩

/-- The text has characters, and the first and the last are no blanks. -/
def Solid (s : List Char) : Prop :=
  s.head?.any (!isBlank ·) = true ∧ s.getLast?.any (!isBlank ·) = true

instance (s : List Char) : Decidable (Solid s) := inferInstanceAs (Decidable (_ ∧ _))

theorem isBlank_of_isDigit {c : Char} (h : c.isDigit = true) : isBlank c = false := by
  have digits : ∀ n < 58, 48 ≤ n → inRanges blankRanges n = false := by decide
  simp only [Char.isDigit, Bool.and_eq_true, decide_eq_true_eq] at h
  exact digits c.toNat (Nat.lt_succ_of_le h.2) h.1

/-! ## One end -/

theorem trimStart_blanks_append (w : Blanks) (s : List Char) :
    trimStart (w.chars ++ s) = trimStart s := by
  rw [trimStart, List.dropWhile_append_of_pos (List.all_eq_true.1 w.blank)]
  rfl

theorem trimEnd_append_blanks (s : List Char) (w : Blanks) :
    trimEnd (s ++ w.chars) = trimEnd s := by
  have h : ∀ c ∈ w.chars.reverse, isBlank c = true := fun c hc =>
    List.all_eq_true.1 w.blank c (List.mem_reverse.1 hc)
  rw [trimEnd, List.reverse_append, List.dropWhile_append_of_pos h]
  rfl

theorem trimStart_cons_of_not_blank {c : Char} (h : isBlank c = false) (s : List Char) :
    trimStart (c :: s) = c :: s := by
  rw [trimStart, List.dropWhile_cons_of_neg (by simp [h])]

theorem trimEnd_concat_of_not_blank {c : Char} (h : isBlank c = false) (s : List Char) :
    trimEnd (s ++ [c]) = s ++ [c] := by
  rw [trimEnd, List.reverse_concat, List.dropWhile_cons_of_neg (by simp [h])]
  simp

/-- A first character that is no blank stays, whatever follows it. -/
theorem trimEnd_cons_of_not_blank {c : Char} (h : isBlank c = false) (s : List Char) :
    trimEnd (c :: s) = c :: trimEnd s := by
  rw [trimEnd, List.reverse_cons, List.dropWhile_append, trimEnd,
    List.dropWhile_cons_of_neg (by simp [h])]
  split
  · next h0 => rw [List.isEmpty_iff.1 h0]; rfl
  · simp

/-- A character that is no blank keeps everything in front of it. -/
theorem trimEnd_append_cons_of_not_blank {c : Char} (h : isBlank c = false) (s t : List Char) :
    trimEnd (s ++ c :: t) = s ++ c :: trimEnd t := by
  have hc : (c :: t).reverse.dropWhile isBlank = (c :: trimEnd t).reverse := by
    rw [← trimEnd_cons_of_not_blank h, trimEnd, List.reverse_reverse]
  rw [trimEnd, List.reverse_append, List.dropWhile_append, hc, if_neg (by simp),
    ← List.reverse_append, List.reverse_reverse]

theorem trim_cons_of_not_blank {c : Char} (h : isBlank c = false) (s : List Char) :
    trim (c :: s) = c :: trimEnd s := by
  rw [trim, trimStart_cons_of_not_blank h, trimEnd_cons_of_not_blank h]

theorem trim_blanks_append (w : Blanks) (s : List Char) : trim (w.chars ++ s) = trim s := by
  rw [trim, trimStart_blanks_append, ← trim]

/-! ## Solid texts -/

theorem solid_iff {s : List Char} : Solid s ↔
    (∃ c t, s = c :: t ∧ isBlank c = false) ∧ ∃ t c, s = t ++ [c] ∧ isBlank c = false := by
  constructor
  · intro h
    obtain ⟨h1, h2⟩ := h
    obtain ⟨c, hc, hb⟩ := (Option.any_eq_true _ _).1 h1
    obtain ⟨d, hd, hb'⟩ := (Option.any_eq_true _ _).1 h2
    obtain ⟨t, rfl⟩ := List.head?_eq_some_iff.1 hc
    obtain ⟨u, hu⟩ := List.getLast?_eq_some_iff.1 hd
    exact ⟨⟨c, t, rfl, by simpa using hb⟩, u, d, hu, by simpa using hb'⟩
  · intro h
    obtain ⟨⟨c, t, rfl, hb⟩, u, d, hu, hb'⟩ := h
    refine ⟨by simp [hb], ?_⟩
    rw [hu]; simp [hb']

theorem solid_cons_append_singleton {c d : Char} (hc : isBlank c = false)
    (hd : isBlank d = false) (s : List Char) : Solid (c :: s ++ [d]) :=
  solid_iff.2 ⟨⟨c, s ++ [d], rfl, hc⟩, c :: s, d, rfl, hd⟩

theorem trim_eq_self_of_solid {s : List Char} (h : Solid s) : trim s = s := by
  obtain ⟨⟨c, t, rfl, hb⟩, u, d, hu, hb'⟩ := solid_iff.1 h
  rw [trim, trimStart_cons_of_not_blank hb, hu, trimEnd_concat_of_not_blank hb']

/-- Behind a solid text there is nothing to take off but at the end. -/
theorem trim_solid_append {s : List Char} (h : Solid s) (t : List Char) :
    trim (s ++ t) = trimEnd (s ++ t) := by
  obtain ⟨⟨c, u, rfl, hb⟩, -⟩ := solid_iff.1 h
  rw [List.cons_append, trim_cons_of_not_blank hb, trimEnd_cons_of_not_blank hb]

/-- Blanks around a solid text come off, and nothing else does. -/
theorem trim_blanks_around {s : List Char} (h : Solid s) (w v : Blanks) :
    trim (w.chars ++ s ++ v.chars) = s := by
  obtain ⟨⟨c, t, rfl, hb⟩, -⟩ := solid_iff.1 h
  rw [trim, List.append_assoc, trimStart_blanks_append, List.cons_append,
    trimStart_cons_of_not_blank hb, ← List.cons_append, trimEnd_append_blanks]
  have := trim_eq_self_of_solid h
  rwa [trim, trimStart_cons_of_not_blank hb] at this

theorem exists_blanks_trim (s : List Char) :
    ∃ w v : Blanks, s = w.chars ++ trim s ++ v.chars := by
  obtain ⟨w, hw, hwb⟩ := exists_blanks_append_trimStart s
  obtain ⟨v, hv, hvb⟩ := exists_trimEnd_append_blanks (trimStart s)
  refine ⟨⟨w, hwb⟩, ⟨v, hvb⟩, ?_⟩
  rw [List.append_assoc, trim, ← hv, ← hw]

theorem trim_eq_iff_of_solid {s t : List Char} (h : Solid t) :
    trim s = t ↔ ∃ w v : Blanks, s = w.chars ++ t ++ v.chars := by
  constructor
  · intro h0
    subst h0
    exact exists_blanks_trim s
  · intro h
    obtain ⟨w, v, rfl⟩ := h
    exact trim_blanks_around h w v

theorem takeWhile_blanks_append_solid {s : List Char} (h : Solid s) (w : Blanks)
    (rest : List Char) : (w.chars ++ s ++ rest).takeWhile isBlank = w.chars := by
  obtain ⟨⟨c, t, rfl, hb⟩, -⟩ := solid_iff.1 h
  rw [List.append_assoc, List.takeWhile_append_of_pos (List.all_eq_true.1 w.blank),
    List.cons_append, List.takeWhile_cons_of_neg (by simp [hb]), List.append_nil]

/-- What stands around a solid text is fixed by the whole. -/
theorem blanks_around_injective {s t : List Char} (hs : Solid s) (ht : Solid t)
    {w v w' v' : Blanks} (h : w.chars ++ s ++ v.chars = w'.chars ++ t ++ v'.chars) :
    w = w' ∧ s = t ∧ v = v' := by
  have hst : s = t := by rw [← trim_blanks_around hs w v, h, trim_blanks_around ht]
  subst hst
  have hw : w = w' := by
    ext1; rw [← takeWhile_blanks_append_solid hs w v.chars, h, takeWhile_blanks_append_solid hs]
  subst hw
  exact ⟨rfl, rfl, by ext1; exact List.append_cancel_left h⟩

end TypeLattice.Text
