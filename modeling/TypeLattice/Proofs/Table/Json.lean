import Mathlib.Data.List.Forall2
import TypeLattice.Proofs.Json.Reader
import TypeLattice.Table.Row

/-!
# Rows as JSON

Rows are written as an array with one object for each row. `Row.IsDescribedBy` says when the
members of an object describe a row: which keys they have, and which value stands under each.

Results:

* `isDescribedBy_members`: the object of a row describes it;
* `IsDescribedBy.unique`: members describe one row at the most;
* `listToJson_texts_lossless`: both texts of rows are well-formed, they are read as the same
  array of objects that describe the rows in order, and no other rows have either text.
-/
namespace TypeLattice.Row

/-- Members of an object that describe a row: no keys but those of the row, and under each of
them the value that the row has. -/
structure IsDescribedBy (row : Row) (members : List (String × Json)) : Prop where
  keys : members.map (·.1) =
    ["name", "kind", "size"] ++ if row.constant.isSome then ["constant"] else []
  name : members.lookup "name" = some (.string row.name)
  kind : ∃ word, members.lookup "kind" = some (.string word) ∧ Kind.ofName? word = some row.kind
  size : members.lookup "size" = some (.number row.size)
  constant : members.lookup "constant" = row.constant.map Json.string

/-- The members of the object of a row. -/
def members (row : Row) : List (String × Json) :=
  [("name", .string row.name), ("kind", .string row.kind.name), ("size", .number row.size)] ++
    (row.constant.map fun c => ("constant", Json.string c)).toList

theorem listToJson_eq_array_members (rows : List Row) :
    listToJson rows = .array ((rows.map members).map .object) := by
  rw [listToJson, List.map_map]
  rfl

theorem isDescribedBy_members (row : Row) : row.IsDescribedBy row.members := by
  obtain ⟨name, kind, size, constant⟩ := row
  cases constant with
  | none => exact ⟨rfl, rfl, ⟨_, rfl, Kind.ofName?_name kind⟩, rfl, rfl⟩
  | some c => exact ⟨rfl, rfl, ⟨_, rfl, Kind.ofName?_name kind⟩, rfl, rfl⟩

theorem IsDescribedBy.unique {row row' : Row} {members : List (String × Json)}
    (h : row.IsDescribedBy members) (h' : row'.IsDescribedBy members) : row = row' := by
  have hname : row.name = row'.name := by simpa using h.name.symm.trans h'.name
  have hsize : row.size = row'.size := by simpa using h.size.symm.trans h'.size
  have hkind : row.kind = row'.kind := by
    obtain ⟨word, hw, hk⟩ := h.kind
    obtain ⟨word', hw', hk'⟩ := h'.kind
    obtain rfl : word = word' := by simpa using hw.symm.trans hw'
    exact Option.some.inj (hk.symm.trans hk')
  have hconstant : row.constant = row'.constant :=
    Option.map_injective (fun _ _ => Json.string.inj) (h.constant.symm.trans h'.constant)
  cases row
  cases row'
  simp_all

theorem rows_eq_of_described {rows rows' : List Row} {objects : List (List (String × Json))}
    (h : List.Forall₂ IsDescribedBy rows objects) (h' : List.Forall₂ IsDescribedBy rows' objects) :
    rows = rows' := by
  induction h generalizing rows' with
  | nil => cases h'; rfl
  | cons hrow _ ih =>
    cases h' with
    | cons hrow' hrest => rw [hrow.unique hrow', ih hrest]

theorem described_members (rows : List Row) :
    List.Forall₂ IsDescribedBy rows (rows.map members) := by
  induction rows with
  | nil => exact .nil
  | cons row rows ih => exact .cons (isDescribedBy_members row) ih

/-! ## Texts -/

theorem listToJson_injective {rows rows' : List Row} (h : listToJson rows = listToJson rows') :
    rows = rows' := by
  rw [listToJson_eq_array_members, listToJson_eq_array_members, Json.array.injEq] at h
  have hm : rows.map members = rows'.map members :=
    List.map_injective_iff.2 (fun _ _ => Json.object.inj) h
  have hr := described_members rows
  rw [hm] at hr
  exact rows_eq_of_described hr (described_members rows')

/-- A text that spells the rows spells no others. -/
theorem rows_eq_of_spells {text : String} {rows rows' : List Row}
    (h : Json.Spells text (listToJson rows)) (h' : Json.Spells text (listToJson rows')) :
    rows = rows' :=
  listToJson_injective (h.unique h')

/-- The second character of a text of rows is a line break in one style and the bracket of an
object in the other. -/
theorem compact_ne_pretty (row row' : Row) (rows rows' : List Row) :
    (listToJson (row :: rows)).compact ≠ (listToJson (row' :: rows')).pretty := by
  intro h
  have hl := congrArg String.toList h
  simp [listToJson, toJson, Json.compact, Json.pretty, Json.print, Json.Style.compact,
    Json.Style.pretty] at hl

theorem compact_eq_pretty_iff {rows rows' : List Row} :
    (listToJson rows).compact = (listToJson rows').pretty ↔ rows = [] ∧ rows' = [] := by
  constructor
  · intro h
    have hs := Json.spells_compact (listToJson rows)
    rw [h] at hs
    obtain rfl := rows_eq_of_spells hs (Json.spells_pretty (listToJson rows'))
    cases rows with
    | nil => exact ⟨rfl, rfl⟩
    | cons row rows => exact absurd h (compact_ne_pretty row row rows rows)
  · intro h
    obtain ⟨rfl, rfl⟩ := h
    rfl

theorem spells_texts_iff (rows : List Row) (v : Json) :
    (Json.Spells (listToJson rows).compact v ↔ v = listToJson rows) ∧
    (Json.Spells (listToJson rows).pretty v ↔ v = listToJson rows) := by
  have hc := Json.spells_compact (listToJson rows)
  have hp := Json.spells_pretty (listToJson rows)
  exact ⟨⟨fun hv => hv.unique hc, fun hv => hv ▸ hc⟩, ⟨fun hv => hv.unique hp, fun hv => hv ▸ hp⟩⟩

/-- Both texts of rows are well-formed and have one reading, the same for both: an array of
objects that describe the rows one by one, each with the keys of its row and no others. Rows
that differ have different texts in either style, and across the styles only the texts of no
rows are the same. -/
theorem listToJson_texts_lossless :
    (∀ rows : List Row, ∃ objects : List (List (String × Json)),
      List.Forall₂ IsDescribedBy rows objects ∧
      Json.read (listToJson rows).compact = some (.array (objects.map .object)) ∧
      Json.read (listToJson rows).pretty = some (.array (objects.map .object)) ∧
      ∀ v, (Json.Spells (listToJson rows).compact v ↔ v = .array (objects.map .object)) ∧
        (Json.Spells (listToJson rows).pretty v ↔ v = .array (objects.map .object))) ∧
    (∀ (row row' : Row) (members : List (String × Json)),
      row.IsDescribedBy members ∧ row'.IsDescribedBy members ↔
        row.IsDescribedBy members ∧ row = row') ∧
    ∀ rows rows' : List Row,
      ((listToJson rows).compact = (listToJson rows').compact ↔ rows = rows') ∧
      ((listToJson rows).pretty = (listToJson rows').pretty ↔ rows = rows') ∧
      ((listToJson rows).compact = (listToJson rows').pretty ↔ rows = [] ∧ rows' = []) := by
  refine ⟨fun rows => ⟨rows.map members, described_members rows, ?_⟩,
    fun row row' ms => ⟨fun h => ⟨h.1, h.1.unique h.2⟩, ?_⟩,
    fun rows rows' => ⟨⟨fun h => ?_, fun h => by rw [h]⟩, ⟨fun h => ?_, fun h => by rw [h]⟩,
      compact_eq_pretty_iff⟩⟩
  · rw [← listToJson_eq_array_members]
    exact ⟨Json.read_eq_some_iff.2 (Json.spells_compact _),
      Json.read_eq_some_iff.2 (Json.spells_pretty _), spells_texts_iff rows⟩
  · intro h
    obtain ⟨h, rfl⟩ := h
    exact ⟨h, h⟩
  · have hs := Json.spells_compact (listToJson rows)
    rw [h] at hs
    exact rows_eq_of_spells hs (Json.spells_compact _)
  · have hs := Json.spells_pretty (listToJson rows)
    rw [h] at hs
    exact rows_eq_of_spells hs (Json.spells_pretty _)

end TypeLattice.Row
