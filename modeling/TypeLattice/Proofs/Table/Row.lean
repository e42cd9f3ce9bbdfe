import Mathlib.Data.List.Nodup
import TypeLattice.Proofs.Ty.Reading
import TypeLattice.Table.Lattice
import TypeLattice.Table.Measurement

/-!
# Rows and their types

A row is made in two ways: the table of the lattice goes through its own list and supplies
the constants, a measurement finds the constant of the type that it has read. Both ways lead
to one row for each type, since the lattice lists the rows of the exported types
(`rows_eq_map_ofTy`), once each.

Results:

* `ofTy_injective`: a row identifies its type;
* `mem_rows_iff`: a row is in the table of the lattice exactly if its type refers to no class;
* `ofTy_agrees_with_lattice`: what a measurement says of a type is what the lattice says.
-/
namespace TypeLattice.Row

theorem ofTy_injective : Function.Injective ofTy := by
  intro a b h
  exact Ty.render_injective (congrArg Row.name h)

/-! ## Exported types -/

/-- The sorts of type: a scalar, a reference to a label, a reference to a class. -/
theorem sort_of_ty (t : Ty Pointee) :
    (∃ s, t = .scalar s) ∨ (∃ l, t = .toLabel l) ∨ ∃ name, t = .toClass name := by
  rcases t with s | l | c
  · exact .inl ⟨s, rfl⟩
  · exact .inr (.inl ⟨l, rfl⟩)
  · exact .inr (.inr ⟨c.name, rfl⟩)

theorem mem_exported_iff {t : Ty Pointee} :
    t ∈ Ty.exported.map (·.2) ↔ ¬∃ name, t = .toClass name := by
  obtain ⟨s, rfl⟩ | ⟨l, rfl⟩ | ⟨name, rfl⟩ := sort_of_ty t
  · have hs : Ty.scalar s ∈ Ty.exported.map (·.2) := by cases s <;> decide
    simp [hs, Ty.toClass]
  · have hl : Ty.toLabel l ∈ Ty.exported.map (·.2) := by cases l <;> decide
    simp only [hl, true_iff]
    simp [Ty.toLabel, Ty.toClass]
  · have hc : Ty.toClass name ∉ Ty.exported.map (·.2) := by
      simp [Ty.exported, Ty.exportedScalars, Ty.exportedReferences, Scalar.all, Label.all,
        Ty.toLabel, Ty.toClass]
    simp [hc]

theorem constant?_eq_some_iff {t : Ty Pointee} {constant : String} :
    t.constant? = some constant ↔ (constant, t) ∈ Ty.exportedReferences := by
  obtain ⟨s, rfl⟩ | ⟨l, rfl⟩ | ⟨name, rfl⟩ := sort_of_ty t
  · simp [Ty.constant?_scalar, Ty.exportedReferences, Ty.toLabel]
  · rw [Ty.constant?_toLabel]
    cases l <;> simp [Ty.exportedReferences, Label.all, Ty.toLabel, eq_comm, Label.constant]
  · rw [Ty.constant?_toClass]
    simp [Ty.exportedReferences, Ty.toLabel, Ty.toClass]

theorem exists_constant?_iff {t : Ty Pointee} :
    (∃ constant, t.constant? = some constant) ↔ ∃ l, t = .toLabel l := by
  obtain ⟨s, rfl⟩ | ⟨l, rfl⟩ | ⟨name, rfl⟩ := sort_of_ty t
  · simp [Ty.constant?_scalar, Ty.toLabel]
  · simp [Ty.constant?_toLabel]
  · rw [Ty.constant?_toClass]
    simp [Ty.toLabel, Ty.toClass]

/-! ## The table of the lattice -/

theorem rows_eq_map_ofTy : View.rows {} = (Ty.exported.map (·.2)).map ofTy := rfl

theorem mem_rows_iff {t : Ty Pointee} :
    ofTy t ∈ View.rows {} ↔ ¬∃ name, t = .toClass name := by
  rw [rows_eq_map_ofTy, List.mem_map_of_injective ofTy_injective, mem_exported_iff]

theorem nodup_rows : (View.rows {}).Nodup := by
  have h : (Ty.exported.map (·.2)).Nodup := by decide
  rw [rows_eq_map_ofTy]
  exact h.map ofTy_injective

/-- A type that is read from a text has one row, the one that it has in the table of the
lattice if it refers to no class: there it stands once. The row has a constant exactly if the
type refers to a label, and then the type is exported under it. Rows are equal for equal
types only. -/
theorem ofTy_agrees_with_lattice {text : String} {t : Ty Pointee} (h : Ty.parse text = .ok t) :
    measure [text] = .ok [ofTy t] ∧ (ofTy t).name = render t ∧
    (ofTy t ∈ View.rows {} ↔ ¬∃ name, t = .toClass name) ∧
    ((View.rows {}).count (ofTy t) = 1 ↔ ¬∃ name, t = .toClass name) ∧
    ((∃ constant, (ofTy t).constant = some constant) ↔ ∃ l, t = .toLabel l) ∧
    (∀ constant, (ofTy t).constant = some constant ↔ (constant, t) ∈ Ty.exportedReferences) ∧
    (∀ name, (ofTy (.toClass name)).constant = none) ∧
    ∀ a b, ofTy a = ofTy b ↔ a = b := by
  refine ⟨?_, rfl, mem_rows_iff, ?_, exists_constant?_iff, fun _ => constant?_eq_some_iff,
    Ty.constant?_toClass, fun a b => ofTy_injective.eq_iff⟩
  · rw [measure_cons_of_ok h, measure_nil]; rfl
  · rw [← mem_rows_iff]
    constructor
    · intro h1
      exact List.count_pos_iff.1 (by omega)
    · intro hm
      exact List.count_eq_one_of_mem nodup_rows hm

/-- A class that is named like an exported constant, spelled with blanks around it. -/
theorem class_named_like_constant :
    Ty.parse " ptr<class TYPE_STRING> " = .ok (.toClass "TYPE_STRING") ∧
    measure [" ptr<class TYPE_STRING> "] = .ok [ofTy (.toClass "TYPE_STRING")] ∧
    ofTy (.toClass "TYPE_STRING") ∉ View.rows {} ∧
    (ofTy (.toClass "TYPE_STRING")).constant = none := by
  have h : Ty.parse " ptr<class TYPE_STRING> " = .ok (.toClass "TYPE_STRING") := by decide
  have hr := ofTy_agrees_with_lattice h
  exact ⟨h, hr.1, fun hm => hr.2.2.1.1 hm ⟨_, rfl⟩, hr.2.2.2.2.2.2.1 _⟩

end TypeLattice.Row
