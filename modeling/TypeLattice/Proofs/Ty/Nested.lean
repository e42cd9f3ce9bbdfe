import TypeLattice.Proofs.Ty.Reading
import TypeLattice.Ty.Basic

/-!
# The texts of nested references

A type under references to types is written with all of its brackets, and the reader knows
references to labels and classes only: what stands between the outermost brackets is taken
for a label, and no type is written like one. A class may be named like a nested reference,
but the word in front of its name is not part of any nested reference.

Results:

* `parse_render_wrap_succ`: a reference to a type is refused, with the text of that type;
* `render_wrap_injective`: the text shows how many references stand around which type;
* `wrap_written_apart_and_refused`: both together, with the kind and the size.
-/
namespace TypeLattice.Ty

open Text (Solid trim)

/-! ## The two shapes of a text -/

theorem toList_render_wrap_succ (n : Nat) (t : Ty Pointee) :
    (render (wrap (n + 1) t)).toList = reference (render (wrap n t)).toList := by
  rw [render_wrap_succ, String.toList_append, String.toList_append]
  rfl

/-- Under any number of references, a type is written as the name of a scalar or between
brackets. -/
theorem scalar_or_reference (n : Nat) (t : Ty Pointee) :
    (∃ s : Scalar, (render (wrap n t)).toList = s.name.toList) ∨
      ∃ inner, (render (wrap n t)).toList = reference inner := by
  cases n with
  | zero =>
    cases t with
    | scalar s => exact .inl ⟨s, rfl⟩
    | ref target => exact .inr ⟨_, toList_render_ref target⟩
  | succ n => exact .inr ⟨_, toList_render_wrap_succ n t⟩

theorem scalar_name_ne_label_name (s : Scalar) (l : Label) : s.name.toList ≠ l.name.toList := by
  cases s <;> cases l <;> decide

theorem reference_ne_label_name (inner : List Char) (l : Label) :
    reference inner ≠ l.name.toList := by
  intro h
  have hp : "ptr<".toList <+: l.name.toList := ⟨inner ++ ['>'], by rw [← h, reference]; simp⟩
  revert hp
  cases l <;> decide

theorem not_class_prefix_scalar_name (s : Scalar) : ¬"class".toList <+: s.name.toList := by
  cases s <;> decide

theorem not_class_prefix_reference (inner : List Char) : ¬"class".toList <+: reference inner := by
  simp [reference]

/-! ## What the reader makes of them -/

theorem solid_render_wrap (n : Nat) (t : Ty Pointee) : Solid (render (wrap n t)).toList := by
  rcases scalar_or_reference n t with ⟨s, h⟩ | ⟨inner, h⟩ <;> rw [h]
  · exact solid_scalar_name s
  · exact solid_reference inner

theorem render_wrap_ne_label_name (n : Nat) (t : Ty Pointee) (l : Label) :
    (render (wrap n t)).toList ≠ l.name.toList := by
  rcases scalar_or_reference n t with ⟨s, h⟩ | ⟨inner, h⟩ <;> rw [h]
  · exact scalar_name_ne_label_name s l
  · exact reference_ne_label_name inner l

theorem not_class_prefix_render_wrap (n : Nat) (t : Ty Pointee) :
    ¬"class".toList <+: (render (wrap n t)).toList := by
  rcases scalar_or_reference n t with ⟨s, h⟩ | ⟨inner, h⟩ <;> rw [h]
  · exact not_class_prefix_scalar_name s
  · exact not_class_prefix_reference inner

/-- Trimming takes nothing off the text of the inner type, so the refusal names that text. -/
theorem parse_render_wrap_succ (n : Nat) (t : Ty Pointee) :
    parse (render (wrap (n + 1) t)) = .error (.unknownLabel (render (wrap n t))) := by
  have hc := not_class_prefix_render_wrap n t
  have ht : trim (render (wrap n t)).toList = (render (wrap n t)).toList :=
    Text.trim_eq_self_of_solid (solid_render_wrap n t)
  rw [parse_eq_error_iff, toList_render_wrap_succ, Text.trim_eq_self_of_solid (solid_reference _)]
  refine ⟨_, rfl, ?_, ?_, ?_, ?_⟩
  · intro h
    rw [h] at hc
    exact hc (List.prefix_refl _)
  · intro hp
    exact hc (List.IsPrefix.trans ⟨[' '], rfl⟩ hp)
  · rw [ht]
    exact render_wrap_ne_label_name n t
  · rw [ht, String.ofList_toList]

/-! ## Different depths, different texts -/

/-- The one is read and the other is refused. -/
theorem render_ne_render_wrap_succ (m : Nat) (t u : Ty Pointee) :
    render t ≠ render (wrap (m + 1) u) := by
  intro h
  have hp := parse_render t
  rw [h, parse_render_wrap_succ] at hp
  cases hp

theorem render_wrap_injective {n m : Nat} {t u : Ty Pointee}
    (h : render (wrap n t) = render (wrap m u)) : n = m ∧ t = u := by
  induction n generalizing m with
  | zero =>
    cases m with
    | zero => exact ⟨rfl, render_injective h⟩
    | succ m => exact absurd h (render_ne_render_wrap_succ m t u)
  | succ n ih =>
    cases m with
    | zero => exact absurd h.symm (render_ne_render_wrap_succ n u t)
    | succ m =>
      have hl := congrArg String.toList h
      rw [toList_render_wrap_succ, toList_render_wrap_succ] at hl
      obtain ⟨rfl, rfl⟩ := ih (String.toList_injective (reference_injective hl))
      exact ⟨rfl, rfl⟩

/-- Types under references are written alike only if they are the same under as many. With a
reference around it, a type has the kind and the size of a reference, and its text is refused
for the text of what the reference points to; without one, the text is read back. No name of a
scalar is that of a label, so that holds of references to scalars too. -/
theorem wrap_written_apart_and_refused :
    (∀ (n m : Nat) (t u : Ty Pointee),
      render (wrap n t) = render (wrap m u) ↔ n = m ∧ t = u) ∧
    (∀ (n : Nat) (t : Ty Pointee),
      (wrap (n + 1) t).kind = .reference ∧ (wrap (n + 1) t).byteSize = 8 ∧
      parse (render (wrap (n + 1) t)) = .error (.unknownLabel (render (wrap n t)))) ∧
    (∀ t : Ty Pointee, parse (render (wrap 0 t)) = .ok t) ∧
    ∀ (s : Scalar) (l : Label), s.name ≠ l.name := by
  refine ⟨fun n m t u => ⟨render_wrap_injective, fun h => ?_⟩,
    fun n t => ⟨kind_wrap_succ n t, rfl, parse_render_wrap_succ n t⟩, parse_render,
    fun s l h => scalar_name_ne_label_name s l (congrArg String.toList h)⟩
  obtain ⟨rfl, rfl⟩ := h
  rfl

/-- A reference to a scalar is refused, and a class of that name is not. -/
example : parse "ptr<ptr<int>>" = .error (.unknownLabel "ptr<int>") ∧
    parse "ptr<class ptr<int>>" = .ok (toClass "ptr<int>") := ⟨rfl, rfl⟩

end TypeLattice.Ty
