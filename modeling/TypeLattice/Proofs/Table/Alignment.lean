import Mathlib.Data.List.Forall2
import TypeLattice.Proofs.Table.SizeReading

/-!
# The columns of the table of sizes

The column of names is as wide as the longest name has bytes, and it is filled up in characters.
A name has no more characters than bytes, so no name is longer than the column: each stands in
the table as a whole, with room behind it, and all sizes begin in the same place.

Results:

* `Row.isAligned_sizeChars`: the line of a row whose name fits into the column;
* `sizeTable_of_widest_le`, `sizeTable_of_lt_widest`: the table, or why there is none;
* `sizeTable_aligned`: both for every list of rows.
-/
namespace TypeLattice

open Text (Column lineFeeds)

/-- The line is the whole name, at least two spaces, and the size, which comes behind `width + 2`
characters. -/
def Row.IsAligned (width : Nat) (row : Row) (line : String) : Prop :=
  ∃ gap, 2 ≤ gap ∧ row.name.length + gap = width + 2 ∧
    line = row.name ++ String.ofList (List.replicate gap ' ') ++ render row.size

theorem Row.isAligned_sizeChars {column : Column} {row : Row}
    (h : row.name.utf8ByteSize ≤ column.width) :
    row.IsAligned column.width (String.ofList (row.sizeChars column)) := by
  have hlength := Text.length_le_utf8ByteSize row.name
  refine ⟨column.width - row.name.length + 2, by omega, by omega, ?_⟩
  apply String.toList_injective
  have hsize : (render row.size).toList = Nat.toDigits 10 row.size := String.toList_ofList
  simp [Row.sizeChars, hsize]

/-- A line has the line feeds of the name in it. -/
theorem Row.lineFeeds_sizeChars (column : Column) (row : Row) :
    lineFeeds (String.ofList (row.sizeChars column)) = lineFeeds row.name := by
  have hgap : (List.replicate (column.width - row.name.length + 2) ' ').count '\n' = 0 := by
    rw [List.count_eq_zero]
    simp
  rw [lineFeeds, String.toList_ofList, Row.sizeChars, List.count_append, List.count_append, hgap,
    List.count_eq_zero.2 (newline_not_mem_toDigits row.size)]
  rfl

theorem sizeTable_of_widest_le {rows : List Row} {column : Column}
    (h : Column.widest (rows.map Row.name) = column.width) : sizeTable rows =
      .ok (Text.ofLines (rows.map fun row => String.ofList (row.sizeChars column))) := by
  rw [sizeTable, Row.nameColumn, Column.ofTexts_eq_ok_iff.2 h]
  exact congrArg Except.ok (join_sizeLine column rows)

theorem sizeTable_of_lt_widest {rows : List Row}
    (h : Column.limit < Column.widest (rows.map Row.name)) :
    sizeTable rows = .error (.columnTooWide (Column.widest (rows.map Row.name))) := by
  rw [sizeTable, Row.nameColumn, Column.ofTexts, dif_neg (Nat.not_le.2 h)]
  rfl

/-- A table of sizes has a line for each row in order. Each shows the whole name of its row, and
the size of its row in the same place as all others, whatever characters the names have. If a
name has more bytes than the widest column, there is no table. -/
theorem sizeTable_aligned (rows : List Row) :
    let width := Column.widest (rows.map Row.name)
    (∀ bound, width ≤ bound ↔ ∀ row ∈ rows, row.name.utf8ByteSize ≤ bound) ∧
    if width ≤ 65535 then
      ∃ lines, List.Forall₂ (Row.IsAligned width) rows lines ∧
        sizeTable rows = .ok (Text.ofLines lines) ∧
        lineFeeds (Text.ofLines lines) =
          rows.length + lineFeeds (String.join (rows.map Row.name))
    else sizeTable rows = .error (.columnTooWide width) := by
  intro width
  refine ⟨fun bound => ?_, ?_⟩
  · rw [Column.widest_le_iff]
    simp
  · split
    · next h =>
      let column : Column := ⟨width, h⟩
      have hwidth : Column.widest (rows.map Row.name) = column.width := rfl
      refine ⟨_, ?_, sizeTable_of_widest_le hwidth, ?_⟩
      · rw [List.forall₂_map_right_iff, List.forall₂_same]
        intro row hr
        have hfits : row.name.utf8ByteSize ≤ column.width :=
          Column.utf8ByteSize_le_widest (List.mem_map_of_mem hr)
        exact Row.isAligned_sizeChars hfits
      · rw [Text.lineFeeds_ofLines, List.length_map,
          Text.lineFeeds_join_congr (Row.lineFeeds_sizeChars column)]
    · next h => exact sizeTable_of_lt_widest (Nat.lt_of_not_le h)

/-- The name with the most bytes is not the one with the most characters. -/
example : sizeTable [⟨"ééé", .reference, 8, none⟩, ⟨"abcd", .scalar .int, 4, none⟩] =
    .ok "ééé     8\nabcd    4\n" := rfl

end TypeLattice
