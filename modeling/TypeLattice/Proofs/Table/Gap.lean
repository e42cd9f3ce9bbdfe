import TypeLattice.Proofs.Table.Alignment
import TypeLattice.Table.Measurement

/-!
# The room behind a name

The column of names is as wide as the longest name has bytes. Where a name in it has characters of
several bytes this is more than any name needs: then even the name with the most characters has
more than two spaces behind it.

Results:

* `Row.gap_eq_two_iff`: a name has two spaces behind it just if it has as many characters as the
  longest name has bytes;
* `sizeTable_gaps`: the spaces behind each name in a table of types;
* `accent_leaves_room`: a table with one row that is wider than it has to be.
-/
namespace TypeLattice

open Text (Column)

/-- How many spaces stand between the name and the size. -/
def Row.gap (column : Column) (row : Row) : Nat := column.width - row.name.length + 2

namespace Row

variable {column : Column} {row : Row}

theorem two_le_gap (column : Column) (row : Row) : 2 ≤ row.gap column := Nat.le_add_left ..

theorem gap_eq_two_iff {rows : List Row} (h : Column.widest (rows.map name) = column.width) :
    row.gap column = 2 ↔ ∀ other ∈ rows, other.name.utf8ByteSize ≤ row.name.length := by
  have hwide : row.gap column = 2 ↔ column.width ≤ row.name.length := by
    unfold gap
    omega
  rw [hwide, ← h, Column.widest_le_iff]
  simp

theorem gap_le_gap {other : Row} (h : other.name.length ≤ row.name.length) :
    row.gap column ≤ other.gap column := by
  unfold gap
  omega

/-- The line of a row, whose name fits into the column. -/
theorem sizeChars_eq_gap (h : row.name.utf8ByteSize ≤ column.width) :
    String.ofList (row.sizeChars column) =
      row.name ++ String.ofList (List.replicate (row.gap column) ' ') ++ render row.size := by
  obtain ⟨gap, htwo, hwidth, hline⟩ := isAligned_sizeChars h
  have hgap : gap = row.gap column := by
    unfold Row.gap
    omega
  rw [hline, hgap]

end Row

theorem sizeTable_eq_gap {rows : List Row} {column : Column}
    (h : Column.widest (rows.map Row.name) = column.width) : sizeTable rows =
      .ok (Text.ofLines (rows.map fun row =>
        row.name ++ String.ofList (List.replicate (row.gap column) ' ') ++ render row.size)) := by
  rw [sizeTable_of_widest_le h]
  congr 2
  refine List.map_congr_left fun row hr => Row.sizeChars_eq_gap ?_
  rw [← h]
  exact Column.utf8ByteSize_le_widest (List.mem_map_of_mem hr)

/-- In a table of types a size comes two spaces behind its name just if this name has as many
characters as each name has bytes. No row has fewer spaces than the one with the most characters,
and in a table of names without characters of several bytes that one has two. -/
theorem sizeTable_gaps (types : List (Ty Pointee))
    (h : ∀ t ∈ types, (render t).utf8ByteSize ≤ 65535) :
    ∃ gap : Ty Pointee → Nat,
      sizeTable (types.map Row.ofTy) = .ok (Text.ofLines (types.map fun t =>
        render t ++ String.ofList (List.replicate (gap t) ' ') ++ render t.byteSize)) ∧
      ∀ t ∈ types, 2 ≤ gap t ∧
        (gap t = 2 ↔ ∀ u ∈ types, (render u).utf8ByteSize ≤ (render t).length) ∧
        ((∀ u ∈ types, (render u).length ≤ (render t).length) →
          (∀ u ∈ types, gap t ≤ gap u) ∧
          ((∀ u ∈ types, (render u).utf8ByteSize = (render u).length) → gap t = 2)) := by
  have hlimit : Column.widest ((types.map Row.ofTy).map Row.name) ≤ Column.limit := by
    rw [Column.widest_le_iff, List.map_map, List.forall_mem_map]
    exact h
  let column : Column := ⟨_, hlimit⟩
  have hwidth : Column.widest ((types.map Row.ofTy).map Row.name) = column.width := rfl
  have htwo : ∀ t, (Row.ofTy t).gap column = 2 ↔
      ∀ u ∈ types, (render u).utf8ByteSize ≤ (render t).length := by
    intro t
    rw [Row.gap_eq_two_iff hwidth, List.forall_mem_map]
    rfl
  refine ⟨fun t => (Row.ofTy t).gap column, ?_, fun t ht => ⟨Row.two_le_gap .., htwo t, ?_⟩⟩
  · rw [sizeTable_eq_gap hwidth, List.map_map]
    rfl
  · intro hlongest
    refine ⟨fun u hu => Row.gap_le_gap (hlongest u hu), fun hsingle => ?_⟩
    rw [htwo]
    intro u hu
    rw [hsingle u hu]
    exact hlongest u hu

/-- The class in the first table leaves room; in the second table no name does. -/
theorem gaps_of_accent_and_boolean :
    (∃ gap : Ty Pointee → Nat, sizeTable ([.toClass "é", .scalar .int].map Row.ofTy) =
        .ok (Text.ofLines ([.toClass "é", .scalar .int].map fun t =>
          render t ++ String.ofList (List.replicate (gap t) ' ') ++ render t.byteSize)) ∧
      2 < gap (.toClass "é")) ∧
    ∃ gap : Ty Pointee → Nat, sizeTable ([.scalar .boolean, .scalar .int].map Row.ofTy) =
        .ok (Text.ofLines ([.scalar .boolean, .scalar .int].map fun t =>
          render t ++ String.ofList (List.replicate (gap t) ' ') ++ render t.byteSize)) ∧
      gap (.scalar .boolean) = 2 := by
  constructor
  · obtain ⟨gap, htable, hgap⟩ := sizeTable_gaps [.toClass "é", .scalar .int] (by decide +kernel)
    obtain ⟨hle, htwo, -⟩ := hgap (.toClass "é") List.mem_cons_self
    have hwider : gap (.toClass "é") ≠ 2 := by
      rw [ne_eq, htwo]
      decide +kernel
    exact ⟨gap, htable, by omega⟩
  · obtain ⟨gap, htable, hgap⟩ :=
      sizeTable_gaps [.scalar .boolean, .scalar .int] (by decide +kernel)
    obtain ⟨-, -, hlongest⟩ := hgap (.scalar .boolean) List.mem_cons_self
    exact ⟨gap, htable, (hlongest (by decide +kernel)).2 (by decide +kernel)⟩

/-- One row, and three spaces. -/
theorem accent_leaves_room :
    measure ["ptr<class é>"] = .ok [Row.ofTy (.toClass "é")] ∧
    sizeTable [Row.ofTy (.toClass "é")] = .ok "ptr<class é>   8\n" :=
  ⟨rfl, rfl⟩

end TypeLattice
