import TypeLattice.Json
import TypeLattice.Text.Column
import TypeLattice.Ty.Constants

/-!
# Rows

A row is one entry of the lattice table, or of a list of measured types: the rendered type, its
kind, its size, and the exported constant of a builtin reference. `Row.ofTy` is the entry of a
type; `Row.toJson` gives the entry as a JSON object.

The table of sizes has one line `name  size` for each entry, with the name filled up to the
column of names. Only a name can keep it from being laid out: the column of names is as wide as
the longest of them, and there is no other of a width that depends on the rows
(`exists_sizeTable_iff`).
-/
namespace TypeLattice

/-- One row of the lattice table: the entry of a type. -/
structure Row where
  /-- The rendered type, such as `int` or `ptr<string>`. -/
  name : String
  kind : Kind
  /-- The size in bytes. -/
  size : Nat
  /-- The exported constant of a builtin reference. -/
  constant : Option String
  deriving DecidableEq, Repr

namespace Row

/-- The entry of a type that is exported under the given constant, or under none. -/
def exportedAs (constant : Option String) (t : Ty Pointee) : Row :=
  ⟨render t, t.kind, t.byteSize, constant⟩

/-- The entry of a type. A builtin reference keeps the name of its exported constant. -/
def ofTy (t : Ty Pointee) : Row := exportedAs t.constant? t

/-- The entry as an object; the member `constant` is omitted where there is none. -/
def toJson (row : Row) : Json :=
  .object <|
    [("name", .string row.name), ("kind", .string row.kind.name), ("size", .number row.size)] ++
      (row.constant.map fun c => ("constant", Json.string c)).toList

/-- The entries as an array of objects. -/
def listToJson (rows : List Row) : Json := .array (rows.map toJson)

/-- The column of the rows' names. -/
def nameColumn (rows : List Row) : Except Text.LayoutError Text.Column :=
  Text.Column.ofTexts (rows.map name)

end Row

/-! ## The table of sizes -/

/-- One `name  size` line. -/
def Row.sizeLine (column : Text.Column) (row : Row) : String :=
  column.pad row.name ++ "  " ++ render row.size ++ "\n"

/-- The table of sizes: one `name  size` line for each entry. -/
def sizeTable (rows : List Row) : Except Text.LayoutError String := do
  let column ← Row.nameColumn rows
  return String.join (rows.map (Row.sizeLine column))

theorem sizeTable_of_fits {rows : List Row}
    (h : ∀ row ∈ rows, row.name.utf8ByteSize ≤ Text.Column.limit) :
    ∃ table, sizeTable rows = .ok table := by
  have hw : Text.Column.widest (rows.map Row.name) ≤ Text.Column.limit := by
    rw [Text.Column.widest_le_iff]
    simpa using h
  simp [sizeTable, Row.nameColumn, Text.Column.ofTexts, hw, pure, Except.pure, bind, Except.bind]

theorem sizeTable_of_not_fits {rows : List Row} {row : Row} (hm : row ∈ rows)
    (h : Text.Column.limit < row.name.utf8ByteSize) : ∃ e, sizeTable rows = .error e := by
  have hw : ¬Text.Column.widest (rows.map Row.name) ≤ Text.Column.limit := by
    rw [Text.Column.widest_le_iff]
    intro hall
    have := hall row.name (List.mem_map_of_mem hm)
    omega
  simp [sizeTable, Row.nameColumn, Text.Column.ofTexts, hw, bind, Except.bind]

/-- There is a table of sizes just when every name fits into the widest column. -/
theorem exists_sizeTable_iff {rows : List Row} : (∃ table, sizeTable rows = .ok table) ↔
    ∀ row ∈ rows, row.name.utf8ByteSize ≤ Text.Column.limit := by
  constructor
  · rintro ⟨table, ht⟩ row hm
    refine Nat.le_of_not_lt fun hlong => ?_
    obtain ⟨e, he⟩ := sizeTable_of_not_fits hm hlong
    rw [ht] at he
    cases he
  · exact sizeTable_of_fits

end TypeLattice
