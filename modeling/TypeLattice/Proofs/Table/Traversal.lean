import Mathlib.Data.String.Basic
import TypeLattice.Proofs.Table.Measurement
import TypeLattice.Proofs.Ty.Reading

/-!
# Measurements in a row and again

Names are measured one by one, so names in a row are measured as the one part and then the
other, and a failure hides what follows it. The names of the rows that come out are spellings
of the same types: they are measured to the same rows. Each comes from the name that was given
by deleting characters, so it is shorter unless it is that name.

Results:

* `measure_append`: a measurement of names in a row;
* `measure_eq_ok_iff`, `measure_eq_error_iff`: which rows and which error come out;
* `measure_names_of_measure`: measuring the names of the rows gives the rows again;
* `measure_first_failure_and_fixed_point`: all of it, with the lengths of the names.
-/
namespace TypeLattice

/-! ## Shorter texts -/

namespace Text

/-- The text is the other one, or is shorter in characters and in bytes. -/
def SameOrShorter (s t : String) : Prop :=
  s = t ∨ s.length < t.length ∧ s.utf8ByteSize < t.utf8ByteSize

theorem eq_or_shorter_of_sublist {s t : List Char} (h : s.Sublist t) :
    s = t ∨ s.length < t.length ∧ String.utf8Len s < String.utf8Len t := by
  induction h with
  | slnil => exact .inl rfl
  | cons c h =>
    have hlen := h.length_le
    have hbytes := String.utf8Len_le_of_sublist h
    have hc := c.utf8Size_pos
    rw [List.length_cons, String.utf8Len_cons]
    exact .inr ⟨by omega, by omega⟩
  | cons_cons c _ ih =>
    rcases ih with rfl | ⟨hlen, hbytes⟩
    · exact .inl rfl
    · rw [List.length_cons, List.length_cons, String.utf8Len_cons, String.utf8Len_cons]
      exact .inr ⟨by omega, by omega⟩

/-- Deleting characters changes nothing or makes a text shorter, since no character is empty. -/
theorem SameOrShorter.of_sublist {s t : String} (h : s.toList.Sublist t.toList) :
    SameOrShorter s t := by
  rcases eq_or_shorter_of_sublist h with he | ⟨hlen, hbytes⟩
  · exact .inl (String.toList_injective he)
  · rw [String.utf8Len_toList, String.utf8Len_toList] at hbytes
    exact .inr ⟨hlen, hbytes⟩

end Text

namespace Measurement

open Text (SameOrShorter)

/-! ## Names in a row -/

theorem measure_append (xs ys : List String) :
    measure (xs ++ ys) = do return (← measure xs) ++ (← measure ys) := by
  induction xs with
  | nil =>
    rw [List.nil_append, measure_nil]
    cases measure ys <;> rfl
  | cons name xs ih =>
    cases hname : Ty.parse name with
    | error cause =>
      rw [List.cons_append, measure_cons_of_error hname, measure_cons_of_error hname]
      rfl
    | ok t =>
      rw [List.cons_append, measure_cons_of_ok hname, measure_cons_of_ok hname, ih]
      cases measure xs with
      | error e => rfl
      | ok rows => cases measure ys <;> rfl

/-! ## What comes out -/

theorem measure_eq_ok_iff {names : List String} {rows : List Row} :
    measure names = .ok rows ↔ ∃ types, Reads names types ∧ rows = types.map Row.ofTy := by
  constructor
  · intro hm
    rcases exists_reads_or_failure names with
      ⟨types, h⟩ | ⟨before, types, bad, cause, after, rfl, h, hb⟩
    · rw [measure_of_reads h] at hm
      exact ⟨types, h, (Except.ok.inj hm).symm⟩
    · rw [measure_of_failure h hb] at hm
      cases hm
  · intro hr
    obtain ⟨types, h, rfl⟩ := hr
    exact measure_of_reads h

theorem measure_eq_error_iff {names : List String} {e : MeasureError} :
    measure names = .error e ↔ ∃ before types after, names = before ++ e.name :: after ∧
      Reads before types ∧ Ty.parse e.name = .error e.cause := by
  constructor
  · intro hm
    rcases exists_reads_or_failure names with
      ⟨types, h⟩ | ⟨before, types, bad, cause, after, rfl, h, hb⟩
    · rw [measure_of_reads h] at hm
      cases hm
    · rw [measure_of_failure h hb] at hm
      cases hm
      exact ⟨before, types, after, rfl, h, hb⟩
  · intro hf
    obtain ⟨before, types, after, rfl, h, hb⟩ := hf
    exact measure_of_failure h hb after

/-! ## Measured again -/

theorem reads_render (types : List (Ty Pointee)) : Reads (types.map render) types := by
  induction types with
  | nil => exact .nil
  | cons t types ih => exact .cons (Ty.parse_render t) ih

theorem measure_names_of_measure {names : List String} {rows : List Row}
    (h : measure names = .ok rows) : measure (rows.map Row.name) = .ok rows := by
  obtain ⟨types, -, rfl⟩ := measure_eq_ok_iff.1 h
  have hnames : (types.map Row.ofTy).map Row.name = types.map render := by
    rw [List.map_map]
    rfl
  rw [hnames]
  exact measure_of_reads (reads_render types)

/-- The name in the row is the one that was given, or a shorter one. -/
theorem names_same_or_shorter {names : List String} {types : List (Ty Pointee)}
    (h : Reads names types) :
    List.Forall₂ (fun name row => SameOrShorter row.name name) names (types.map Row.ofTy) := by
  induction h with
  | nil => exact .nil
  | cons hname _ ih => exact .cons (.of_sublist (Ty.render_sublist_of_parse hname)) ih

/-- Names in a row give the error of the first part, or else that of the second, or else the
rows of both. There is one row for each name in order, if all of them are types; if not, the
error names the first that is none, as it was given, and says why. The names of the rows give
the same rows, and each is the name that was given or a shorter one. -/
theorem measure_first_failure_and_fixed_point :
    (∀ xs ys, measure (xs ++ ys) = do return (← measure xs) ++ (← measure ys)) ∧
    (∀ names rows, measure names = .ok rows ↔
      ∃ types, Reads names types ∧ rows = types.map Row.ofTy) ∧
    (∀ names message, (∃ e, measure names = .error e ∧ e.message = message) ↔
      ∃ before types bad cause after, names = before ++ bad :: after ∧ Reads before types ∧
        Ty.parse bad = .error cause ∧ message = cause.message ++ " in `" ++ bad ++ "`") ∧
    ∀ names rows, measure names = .ok rows → measure (rows.map Row.name) = .ok rows ∧
      List.Forall₂ (fun name row => SameOrShorter row.name name) names rows := by
  refine ⟨measure_append, fun _ _ => measure_eq_ok_iff, fun names message => ⟨?_, ?_⟩,
    fun names rows h => ⟨measure_names_of_measure h, ?_⟩⟩
  · intro hm
    obtain ⟨⟨bad, cause⟩, he, rfl⟩ := hm
    obtain ⟨before, types, after, hnames, h, hb⟩ := measure_eq_error_iff.1 he
    exact ⟨before, types, bad, cause, after, hnames, h, hb, rfl⟩
  · intro hf
    obtain ⟨before, types, bad, cause, after, rfl, h, hb, rfl⟩ := hf
    exact ⟨⟨bad, cause⟩, measure_of_failure h hb after, rfl⟩
  · obtain ⟨types, hr, rfl⟩ := measure_eq_ok_iff.1 h
    exact names_same_or_shorter hr

/-- A label between blanks of several bytes, and a class name that keeps its own. -/
theorem measure_names_with_blanks :
    measure ["ptr<\u2003string\t>", "ptr<class  A >"] =
      .ok [Row.ofTy (.toLabel .string), Row.ofTy (.toClass " A ")] ∧
    measure ["ptr<string>", "ptr<class  A >"] =
      .ok [Row.ofTy (.toLabel .string), Row.ofTy (.toClass " A ")] ∧
    List.Forall₂ (fun name row => SameOrShorter row.name name)
      ["ptr<\u2003string\t>", "ptr<class  A >"]
      [Row.ofTy (.toLabel .string), Row.ofTy (.toClass " A ")] := by
  have h : measure ["ptr<\u2003string\t>", "ptr<class  A >"] =
    .ok [Row.ofTy (.toLabel .string), Row.ofTy (.toClass " A ")] := rfl
  exact ⟨h, measure_first_failure_and_fixed_point.2.2.2 _ _ h⟩

end Measurement

end TypeLattice
