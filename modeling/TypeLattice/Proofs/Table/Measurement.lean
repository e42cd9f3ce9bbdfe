import Mathlib.Data.List.Forall2
import TypeLattice.Table.Measurement

/-!
# The first failure of a measurement

Names are read up to the first that is no type. `Reads names types` says that all of them are
types, and which; otherwise the names fall apart at the first failure, and what follows it
makes no difference.

Results:

* `ofNames_append`: names that are types are read before whatever follows them;
* `exists_reads_or_failure`, `exists_readsUpTo`: all names are types, or there is a first that is
  none;
* `measure_of_reads`, `measure_of_failure`: what comes out in the two cases;
* `exists_measure_eq_error_iff`: a measurement fails just when some name is no type.
-/
namespace TypeLattice.Measurement

/-- Every name is read as the type at the same place. -/
def Reads (names : List String) (types : List (Ty Pointee)) : Prop :=
  List.Forall₂ (fun name t => Ty.parse name = .ok t) names types

theorem ofNames_append {names : List String} {types : List (Ty Pointee)} (h : Reads names types)
    (more : List String) : ofNames (names ++ more) =
      ⟨names.zip types ++ (ofNames more).read, (ofNames more).failure⟩ := by
  induction h with
  | nil => rfl
  | cons hname _ ih => simp [ofNames, hname, ih]

theorem ofNames_of_reads {names : List String} {types : List (Ty Pointee)}
    (h : Reads names types) : ofNames names = ⟨names.zip types, none⟩ := by
  have ha := ofNames_append h []
  simpa [ofNames] using ha

theorem ofNames_of_failure {before : List String} {types : List (Ty Pointee)} {bad : String}
    {cause : ParseError} (h : Reads before types) (hb : Ty.parse bad = .error cause)
    (after : List String) :
    ofNames (before ++ bad :: after) = ⟨before.zip types, some ⟨bad, cause⟩⟩ := by
  have ha := ofNames_append h (bad :: after)
  simpa [ofNames, hb] using ha

theorem exists_reads_or_failure (names : List String) : (∃ types, Reads names types) ∨
    ∃ before types bad cause after, names = before ++ bad :: after ∧ Reads before types ∧
      Ty.parse bad = .error cause := by
  induction names with
  | nil => exact .inl ⟨[], .nil⟩
  | cons name names ih =>
    cases hname : Ty.parse name with
    | error cause => exact .inr ⟨[], [], name, cause, names, rfl, .nil, hname⟩
    | ok t =>
      rcases ih with ⟨types, h⟩ | ⟨before, types, bad, cause, after, rfl, h, hb⟩
      · exact .inl ⟨t :: types, .cons hname h⟩
      · exact .inr ⟨name :: before, t :: types, bad, cause, after, rfl, .cons hname h, hb⟩

/-- Names that are all types include none that is no type. -/
theorem Reads.parse_ne_error {names : List String} {types : List (Ty Pointee)}
    (h : Reads names types) {name : String} (hm : name ∈ names) (cause : ParseError) :
    Ty.parse name ≠ .error cause := by
  induction h with
  | nil => cases hm
  | cons hname _ ih =>
    rcases List.mem_cons.1 hm with rfl | hm
    · rw [hname]
      nofun
    · exact ih hm

/-- The names before the first that is no type, what they are read as, and that failure if there
is one. -/
inductive ReadsUpTo :
    List String → List String → List (Ty Pointee) → Option MeasureError → Prop
  | all {names : List String} {types : List (Ty Pointee)} (h : Reads names types) :
    ReadsUpTo names names types none
  | failure {before : List String} {types : List (Ty Pointee)} {bad : String} {cause : ParseError}
    (h : Reads before types) (hb : Ty.parse bad = .error cause) (after : List String) :
    ReadsUpTo (before ++ bad :: after) before types (some ⟨bad, cause⟩)

theorem exists_readsUpTo (names : List String) :
    ∃ before types failure, ReadsUpTo names before types failure := by
  rcases exists_reads_or_failure names with
    ⟨types, h⟩ | ⟨before, types, bad, cause, after, rfl, h, hb⟩
  · exact ⟨names, types, none, .all h⟩
  · exact ⟨before, types, _, .failure h hb after⟩

/-! ## Rows -/

theorem map_snd_zip_of_reads {names : List String} {types : List (Ty Pointee)}
    (h : Reads names types) {β : Type} (f : Ty Pointee → β) :
    (names.zip types).map (fun (_, t) => f t) = types.map f := by
  induction h with
  | nil => rfl
  | cons _ _ ih => simp [ih]

theorem measure_of_reads {names : List String} {types : List (Ty Pointee)}
    (h : Reads names types) : measure names = .ok (types.map Row.ofTy) := by
  rw [measure, ofNames_of_reads h, rows, map_snd_zip_of_reads h]

theorem measure_of_failure {before : List String} {types : List (Ty Pointee)} {bad : String}
    {cause : ParseError} (h : Reads before types) (hb : Ty.parse bad = .error cause)
    (after : List String) : measure (before ++ bad :: after) = .error ⟨bad, cause⟩ := by
  rw [measure, ofNames_of_failure h hb, rows]

/-- A measurement fails just when some name is no type. -/
theorem exists_measure_eq_error_iff {names : List String} : (∃ e, measure names = .error e) ↔
    ∃ name ∈ names, ∃ cause, Ty.parse name = .error cause := by
  rcases exists_reads_or_failure names with
    ⟨types, h⟩ | ⟨before, types, bad, cause, after, rfl, h, hb⟩
  · simp only [measure_of_reads h, reduceCtorEq, exists_false, false_iff]
    rintro ⟨name, hm, cause, hc⟩
    exact h.parse_ne_error hm cause hc
  · have hbad : bad ∈ before ++ bad :: after := by simp
    exact iff_of_true ⟨_, measure_of_failure h hb after⟩ ⟨bad, hbad, cause, hb⟩

end TypeLattice.Measurement
