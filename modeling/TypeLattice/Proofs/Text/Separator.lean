import Mathlib.Data.List.TakeWhile

/-!
# Separators

Texts that are put together with something between the parts, and taken apart again.

Results:

* `cut_append`: a text is cut at the first occurrence of a mark;
* `append_mark_injective`: a mark that the first part lacks separates;
* `append_pair_injective`: so do two different characters in a row, although the first part
  may end with the one that comes first.
-/
namespace TypeLattice.Text

/-- What stands before the first occurrence of a mark, and what stands behind it. -/
def cut (mark : Char) (s : List Char) : List Char × List Char :=
  (s.takeWhile (· ≠ mark), (s.dropWhile (· ≠ mark)).drop 1)

theorem ne_of_mem_of_not_mem {mark : Char} {s : List Char} (h : mark ∉ s) :
    ∀ c ∈ s, decide (c ≠ mark) = true := fun c hc => by
  rw [decide_eq_true_eq]; intro he; subst he; exact h hc

theorem cut_of_not_mem {mark : Char} {s : List Char} (h : mark ∉ s) : cut mark s = (s, []) := by
  have hs := ne_of_mem_of_not_mem h
  rw [cut, List.takeWhile_eq_self_iff.2 hs, List.dropWhile_eq_nil_iff.2 hs]; rfl

theorem cut_append {mark : Char} {s : List Char} (h : mark ∉ s) (t : List Char) :
    cut mark (s ++ mark :: t) = (s, t) := by
  have hs := ne_of_mem_of_not_mem h
  rw [cut, List.takeWhile_append_of_pos hs, List.dropWhile_append_of_pos hs]
  simp

theorem append_mark_injective {mark : Char} {s s' t t' : List Char} (hs : mark ∉ s)
    (hs' : mark ∉ s') (h : s ++ mark :: t = s' ++ mark :: t') : s = s' ∧ t = t' := by
  have := cut_append hs t
  rw [h, cut_append hs' t'] at this
  exact ⟨(Prod.mk.inj this).1.symm, (Prod.mk.inj this).2.symm⟩

/-- The first part cannot grow into the separator: what it would take from there holds the
separator itself, or ends where the separator has its second character. -/
theorem append_pair_of_le {a b : Char} (hab : a ≠ b) {s s' t t' : List Char}
    (hs' : ¬[a, b] <:+: s') (hl : s.length ≤ s'.length)
    (h : s ++ a :: b :: t = s' ++ a :: b :: t') : s = s' ∧ t = t' := by
  obtain ⟨m, rfl⟩ : ∃ m, s' = s ++ m :=
    ⟨_, List.prefix_iff_eq_append.1
      (List.prefix_of_prefix_length_le ⟨_, rfl⟩ ⟨_, h.symm⟩ hl) |>.symm⟩
  rw [List.append_assoc] at h
  have hm := List.append_cancel_left h
  rcases m with _ | ⟨c, _ | ⟨d, m⟩⟩
  · simpa using hm
  · simp only [List.cons_append, List.nil_append, List.cons.injEq] at hm
    exact absurd hm.2.1.symm hab
  · simp only [List.cons_append, List.cons.injEq] at hm
    obtain ⟨rfl, rfl, -⟩ := hm
    exact absurd ⟨s, m, by simp⟩ hs'

theorem append_pair_injective {a b : Char} (hab : a ≠ b) {s s' t t' : List Char}
    (hs : ¬[a, b] <:+: s) (hs' : ¬[a, b] <:+: s')
    (h : s ++ a :: b :: t = s' ++ a :: b :: t') : s = s' ∧ t = t' := by
  rcases Nat.le_total s.length s'.length with hl | hl
  · exact append_pair_of_le hab hs' hl h
  · obtain ⟨h1, h2⟩ := append_pair_of_le hab hs hl h.symm
    exact ⟨h1.symm, h2.symm⟩

end TypeLattice.Text
