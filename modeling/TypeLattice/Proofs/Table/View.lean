import Mathlib.Data.List.Induction
import TypeLattice.Proofs.Table.Row
import TypeLattice.Proofs.Table.SectionLayout

/-!
# Views after changes

A view starts from its defaults, and each change gives a new value to one setting. Which rows the
view shows and which sections its table has are two decisions on the same settings. They agree in
every view: the rows of a section are those that the view with this section alone shows, so a table
is put together from the tables of its sections.

Results:

* `setting_change`, `setting_ofChanges`: what one change does to a setting, and what any number do;
* `sections_eq`: the sections of a table with their rows;
* `exists_text_eq_append`: a table and those of its two halves;
* `ofChanges_table`: what the table shows after any changes in any order.
-/
namespace TypeLattice.View

/-! ## Settings -/

/-- What can be changed in a view. -/
inductive Setting where
  | scalars
  | references
  | colored
  deriving DecidableEq

/-- The value of a setting. -/
def setting (v : View) : Setting → Bool
  | .scalars => v.scalars
  | .references => v.references
  | .colored => v.palette.isColored

/-- The setting that the change is for. -/
def Change.setting : Change → Setting
  | .scalars _ => .scalars
  | .references _ => .references
  | .colored _ => .colored

/-- The value that the change gives to its setting. -/
def Change.value : Change → Bool
  | .scalars on => on
  | .references on => on
  | .colored on => on

/-- The default view after the changes, one after the other. -/
def ofChanges (changes : List Change) : View := changes.foldl change {}

/-- The value that the changes give last to a setting, its default if they give none. -/
def lastValue (changes : List Change) (s : Setting) : Bool :=
  match (changes.filter (·.setting = s)).getLast? with
  | some c => c.value
  | none => setting {} s

theorem setting_change (v : View) (c : Change) (s : Setting) :
    (v.change c).setting s = if c.setting = s then c.value else v.setting s := by
  cases c with
  | scalars on => cases s <;> rfl
  | references on => cases s <;> rfl
  | colored on =>
    cases s with
    | scalars => rfl
    | references => rfl
    | colored => exact Palette.isColored_ofColored on

theorem ofChanges_concat (changes : List Change) (c : Change) :
    ofChanges (changes ++ [c]) = (ofChanges changes).change c := List.foldl_concat ..

theorem lastValue_concat (changes : List Change) (c : Change) (s : Setting) :
    lastValue (changes ++ [c]) s = if c.setting = s then c.value else lastValue changes s := by
  unfold lastValue
  rw [List.filter_append]
  by_cases hc : c.setting = s
  · simp [hc]
  · simp [hc]

theorem setting_ofChanges (changes : List Change) (s : Setting) :
    (ofChanges changes).setting s = lastValue changes s := by
  -- from the end of the list, where the change that counts is met first
  induction changes using List.reverseRecOn with
  | nil => rfl
  | append_singleton changes c ih =>
    rw [ofChanges_concat, setting_change, lastValue_concat, ih]

/-- No change gives a view any palette but the two of `Palette.ofColored`. -/
theorem palette_ofChanges (changes : List Change) :
    (ofChanges changes).palette = .ofColored ((ofChanges changes).setting .colored) := by
  induction changes using List.reverseRecOn with
  | nil => rfl
  | append_singleton changes c ih =>
    rw [ofChanges_concat]
    cases c with
    | scalars on => exact ih
    | references on => exact ih
    | colored on => exact congrArg Palette.ofColored (Palette.isColored_ofColored on).symm

theorem ofChanges_eq (changes : List Change) :
    ofChanges changes = ⟨lastValue changes .scalars, lastValue changes .references,
      .ofColored (lastValue changes .colored)⟩ := by
  rw [← setting_ofChanges, ← setting_ofChanges, ← setting_ofChanges, ← palette_ofChanges]
  rfl

theorem ofChanges_eq_iff {changes changes' : List Change} :
    ofChanges changes = ofChanges changes' ↔ ∀ s, lastValue changes s = lastValue changes' s := by
  constructor
  · intro h s
    rw [← setting_ofChanges, ← setting_ofChanges, h]
  · intro h
    rw [ofChanges_eq, ofChanges_eq, h, h, h]

/-! ## Rows -/

/-- The rows of the scalars. -/
def scalarRows : List Row := Scalar.all.map fun s => Row.exportedAs none (.scalar s)

/-- The rows of the exported references. -/
def referenceRows : List Row :=
  Ty.exportedReferences.map fun (constant, t) => Row.exportedAs (some constant) t

theorem rows_eq (v : View) : v.rows =
    (if v.scalars then scalarRows else []) ++ if v.references then referenceRows else [] := rfl

theorem exists_of_mem_scalarRows {row : Row} (h : row ∈ scalarRows) :
    ∃ s, row = Row.exportedAs none (.scalar s) := by
  obtain ⟨s, -, rfl⟩ := List.mem_map.1 h
  exact ⟨s, rfl⟩

theorem exists_of_mem_referenceRows {row : Row} (h : row ∈ referenceRows) :
    ∃ l : Label, row = Row.exportedAs (some l.constant) (.toLabel l) := by
  obtain ⟨_, hm, rfl⟩ := List.mem_map.1 h
  obtain ⟨l, -, rfl⟩ := List.mem_map.1 hm
  exact ⟨l, rfl⟩

theorem isScalar_of_mem_scalarRows {row : Row} (h : row ∈ scalarRows) : row.kind.isScalar := by
  obtain ⟨s, rfl⟩ := exists_of_mem_scalarRows h
  rfl

theorem isReference_of_mem_referenceRows {row : Row} (h : row ∈ referenceRows) :
    row.kind.isReference := by
  obtain ⟨l, rfl⟩ := exists_of_mem_referenceRows h
  rfl

theorem filter_rows (v : View) (p : Row → Bool) : v.rows.filter p =
    (if v.scalars then scalarRows.filter p else []) ++
      if v.references then referenceRows.filter p else [] := by
  rw [rows_eq, List.filter_append, apply_ite (List.filter p), apply_ite (List.filter p),
    List.filter_nil]

theorem filter_isScalar_rows (v : View) :
    v.rows.filter (·.kind.isScalar) = if v.scalars then scalarRows else [] := by
  have hscalars : scalarRows.filter (·.kind.isScalar) = scalarRows :=
    List.filter_eq_self.2 fun _ => isScalar_of_mem_scalarRows
  have hreferences : referenceRows.filter (·.kind.isScalar) = [] := by
    rw [List.filter_eq_nil_iff]
    intro row hrow
    simpa [Kind.isReference] using isReference_of_mem_referenceRows hrow
  rw [filter_rows, hscalars, hreferences, ite_self, List.append_nil]

theorem filter_isReference_rows (v : View) :
    v.rows.filter (·.kind.isReference) = if v.references then referenceRows else [] := by
  have hscalars : scalarRows.filter (·.kind.isReference) = [] := by
    rw [List.filter_eq_nil_iff]
    intro row hrow
    simpa [Kind.isReference] using isScalar_of_mem_scalarRows hrow
  have hreferences : referenceRows.filter (·.kind.isReference) = referenceRows :=
    List.filter_eq_self.2 fun _ => isReference_of_mem_referenceRows
  rw [filter_rows, hscalars, hreferences, ite_self, List.nil_append]

theorem nodup_rows (v : View) : v.rows.Nodup := by
  have hscalars : (if v.scalars then scalarRows else []).Sublist scalarRows := by
    cases v.scalars <;> simp
  have hreferences : (if v.references then referenceRows else []).Sublist referenceRows := by
    cases v.references <;> simp
  rw [rows_eq]
  exact Row.nodup_rows.sublist (hscalars.append hreferences)

/-! ## Sections -/

theorem sections_eq (v : View) : v.sections =
    (if v.scalars then [("scalars", scalarRows)] else []) ++
      if v.references then [("references", referenceRows)] else [] := by
  unfold sections
  rw [filter_isScalar_rows, filter_isReference_rows]
  cases v.scalars <;> cases v.references <;> rfl

/-- The part of a table that is one section: nothing if it is not shown, else its header and a line
for each row in order. -/
inductive IsPart (title : String) : Bool → List Row → String → Prop where
  | hidden : IsPart title false [] ""
  | shown {width : Nat} {header : String} {rows : List Row} {lines : List String}
      (hheader : visible header = "[" ++ title ++ "]\n")
      (hlines : List.Forall₂ (Row.IsLaidOut width) rows lines) :
      IsPart title true rows (header ++ String.join lines)

theorem text_eq {v : View} {scalars references : String}
    (hscalars : sectionText v.palette "scalars" scalarRows = .ok scalars)
    (hreferences : sectionText v.palette "references" referenceRows = .ok references) :
    v.text = .ok ((if v.scalars then scalars else "") ++
      (if v.scalars ∧ v.references then "\n" else "") ++
      if v.references then references else "") := by
  rw [text, sections_eq]
  cases v.scalars <;> cases v.references <;>
    simp [hscalars, hreferences, pure, Except.pure, bind, Except.bind]

theorem isClean_exportedAs_scalar (s : Scalar) : (Row.exportedAs none (.scalar s)).IsClean where
  name := by cases s <;> decide
  constant := nofun

theorem isClean_exportedAs_label (l : Label) :
    (Row.exportedAs (some l.constant) (.toLabel l)).IsClean where
  name := by cases l <;> decide
  constant := by
    rintro _ ⟨⟩
    cases l <;> decide

theorem isClean_of_mem_scalarRows {row : Row} (h : row ∈ scalarRows) : row.IsClean := by
  obtain ⟨s, rfl⟩ := exists_of_mem_scalarRows h
  exact isClean_exportedAs_scalar s

theorem isClean_of_mem_referenceRows {row : Row} (h : row ∈ referenceRows) : row.IsClean := by
  obtain ⟨l, rfl⟩ := exists_of_mem_referenceRows h
  exact isClean_exportedAs_label l

/-- Rows without escape characters make a part of a table in each palette, unless a name is too
long. -/
theorem exists_isPart (colored : Bool) (title : String) {rows : List Row}
    (htitle : '\x1b' ∉ title.toList) (hrows : ∀ row ∈ rows, row.IsClean)
    (hlimit : Text.Column.widest (rows.map Row.name) ≤ Text.Column.limit) :
    ∃ text, sectionText (.ofColored colored) title rows = .ok text ∧
      IsPart title true rows text := by
  let column : Text.Column := ⟨_, hlimit⟩
  have hwidth : Text.Column.widest (rows.map Row.name) = column.width := rfl
  have hheader : visible (textIn (.ofColored colored) (headerStretches title)) =
      "[" ++ title ++ "]\n" := by
    rw [visible_textIn colored (isClean_headerStretches htitle)]
    simp [headerStretches, textIn, Stretch.textIn_plain, String.append_assoc]
  have hlines : List.Forall₂ (Row.IsLaidOut column.width) rows
      (rows.map fun row => textIn (.ofColored colored) (row.stretches column)) := by
    rw [List.forall₂_map_right_iff, List.forall₂_same]
    intro row hrow
    have hfits : row.name.utf8ByteSize ≤ column.width :=
      Text.Column.utf8ByteSize_le_widest (List.mem_map_of_mem hrow)
    exact Row.isLaidOut_textIn colored (hrows row hrow) hfits
  refine ⟨_, sectionText_eq_textIn hwidth _ title, ?_⟩
  rw [textIn_sectionStretches]
  exact .shown hheader hlines

theorem IsPart.ite {title text : String} {rows : List Row} (h : IsPart title true rows text)
    (shown : Bool) :
    IsPart title shown (if shown then rows else []) (if shown then text else "") := by
  cases shown with
  | false => exact .hidden
  | true => exact h

/-! ## Tables -/

theorem rows_change_references (v : View) :
    (v.change (.references false)).rows = if v.scalars then scalarRows else [] := List.append_nil _

theorem rows_change_scalars (v : View) :
    (v.change (.scalars false)).rows = if v.references then referenceRows else [] := rfl

/-- The table of a view in one of the two palettes is the table of its scalars, an empty line if
both sections are shown, and the table of its references. -/
theorem exists_text_eq_append {v : View} {colored : Bool} (h : v.palette = .ofColored colored) :
    ∃ front back, (v.change (.references false)).text = .ok front ∧
      (v.change (.scalars false)).text = .ok back ∧
      v.text = .ok (front ++ (if v.scalars ∧ v.references then "\n" else "") ++ back) ∧
      IsPart "scalars" v.scalars (v.change (.references false)).rows front ∧
      IsPart "references" v.references (v.change (.scalars false)).rows back := by
  obtain ⟨scalars, hscalars, hpart⟩ := exists_isPart colored "scalars"
    (by decide) (fun _ => isClean_of_mem_scalarRows) (by decide)
  obtain ⟨references, hreferences, hpart'⟩ := exists_isPart colored "references"
    (by decide) (fun _ => isClean_of_mem_referenceRows) (by decide)
  rw [← h] at hscalars hreferences
  refine ⟨if v.scalars then scalars else "", if v.references then references else "",
    ?_, ?_, text_eq hscalars hreferences, ?_, ?_⟩
  · rw [text_eq (v := v.change (.references false)) hscalars hreferences]
    cases hshown : v.scalars <;> simp [change, hshown]
  · rw [text_eq (v := v.change (.scalars false)) hscalars hreferences]
    cases hshown : v.references <;> simp [change, hshown]
  · rw [rows_change_references]
    exact hpart.ite v.scalars
  · rw [rows_change_scalars]
    exact hpart'.ite v.references

/-- Of the changes of a setting only the last one counts, whatever stands between them: it decides
what the view shows, and views of other last values differ. The table is that of the scalars and
that of the references, with an empty line in between if both are shown. Its lines are the rows of
the view in order, each once and in the section of its kind. -/
theorem ofChanges_table (changes : List Change) :
    let v := ofChanges changes
    let scalars := v.change (.references false)
    let references := v.change (.scalars false)
    v = ⟨lastValue changes .scalars, lastValue changes .references,
      .ofColored (lastValue changes .colored)⟩ ∧
    (∀ changes', (∀ s, lastValue changes s = lastValue changes' s) ↔
      v = ofChanges changes' ∧ v.rows = (ofChanges changes').rows ∧
        v.text = (ofChanges changes').text) ∧
    v.rows = scalars.rows ++ references.rows ∧ v.rows.Nodup ∧
    (∀ row ∈ scalars.rows, row.kind.isScalar) ∧
    (∀ row ∈ references.rows, row.kind.isReference) ∧
    ∃ front back, scalars.text = .ok front ∧ references.text = .ok back ∧
      v.text = .ok (front ++ (if v.scalars ∧ v.references then "\n" else "") ++ back) ∧
      IsPart "scalars" v.scalars scalars.rows front ∧
      IsPart "references" v.references references.rows back := by
  intro v scalars references
  have hscalars : scalars.rows = if v.scalars then scalarRows else [] := rows_change_references v
  have hreferences : references.rows = if v.references then referenceRows else [] :=
    rows_change_scalars v
  refine ⟨ofChanges_eq changes, fun changes' => ?_, ?_, nodup_rows v, ?_, ?_,
    exists_text_eq_append (palette_ofChanges changes)⟩
  · rw [← ofChanges_eq_iff]
    constructor
    · intro h
      exact ⟨h, congrArg rows h, congrArg text h⟩
    · exact And.left
  · rw [hscalars, hreferences, rows_eq]
  · rw [hscalars]
    intro row hrow
    exact isScalar_of_mem_scalarRows (List.mem_ite_nil_right.1 hrow).2
  · rw [hreferences]
    intro row hrow
    exact isReference_of_mem_referenceRows (List.mem_ite_nil_right.1 hrow).2

/-- Two orders of the same last values, one of them with a change that does not count. -/
example : ofChanges [.colored true, .references false, .colored false] =
    ofChanges [.colored false, .references false] := rfl

end TypeLattice.View
