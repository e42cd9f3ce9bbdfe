import Mathlib.Data.List.Basic
import TypeLattice.Proofs.Text.LineFeeds
import TypeLattice.Proofs.Ty.Reading
import TypeLattice.Table.Row

/-!
# The table of sizes read back

The lines of the table are padded to a column that depends on all of them, and names may hold
spaces and digits of their own. A line is read from its end: digits are the size, and the
spaces in front of them belong to the column, since the text of a type never ends with a
space. So no line needs to know the width of the column, and the table is read without it.

Results:

* `readSizeLine_append`: a line gives its name and its size;
* `readSizeTable_of_sizeTable`: a table gives the names and sizes of its rows, if no name breaks
  a line or ends with a space;
* `sizeTable_determines_types`: the table of `Tabular` types determines them.
-/
namespace TypeLattice

/-! ## The reader -/

/-- The name and the size that a line shows. -/
def readSizeLine (line : List Char) : String × Nat :=
  let back := line.reverse
  (String.ofList ((back.dropWhile Char.isDigit).dropWhile (· = ' ')).reverse,
    Nat.ofDigitChars 10 (back.takeWhile Char.isDigit).reverse 0)

/-- The names and the sizes that the lines of a table show. -/
def readSizeTable (table : String) : List (String × Nat) :=
  (table.toList.splitOn '\n').dropLast.map readSizeLine

/-! ## Lines -/

/-- The name of the row stands on one line, and its end can be told from spaces behind it. -/
structure Row.IsPlain (row : Row) : Prop where
  oneLine : '\n' ∉ row.name.toList
  closed : row.name.toList.getLast? ≠ some ' '

/-- The characters of the row's line, without the line feed at its end. -/
def Row.sizeChars (column : Text.Column) (row : Row) : List Char :=
  row.name.toList ++ (List.replicate (column.width - row.name.length + 2) ' ' ++
    Nat.toDigits 10 row.size)

theorem Row.toList_sizeLine (column : Text.Column) (row : Row) :
    (row.sizeLine column).toList = row.sizeChars column ++ ['\n'] := by
  have hgap : List.replicate (column.width - row.name.length + 2) ' ' =
      List.replicate (column.width - row.name.length) ' ' ++ "  ".toList := by
    rw [← List.replicate_append_replicate]
    rfl
  have hsize : (render row.size).toList = Nat.toDigits 10 row.size := String.toList_ofList
  rw [Row.sizeLine, Row.sizeChars, Text.Column.pad, hgap, ← hsize]
  simp

/-- A line is read from its end, whatever the number of spaces. -/
theorem readSizeLine_append {name : List Char} (h : name.getLast? ≠ some ' ') (n size : Nat) :
    readSizeLine (name ++ (List.replicate (n + 1) ' ' ++ Nat.toDigits 10 size)) =
      (String.ofList name, size) := by
  have hdigits : ∀ c ∈ (Nat.toDigits 10 size).reverse, c.isDigit = true :=
    fun c hc => Nat.isDigit_of_mem_toDigits (by decide) (by decide) (List.mem_reverse.1 hc)
  have hspaces : ∀ c ∈ List.replicate n ' ', decide (c = ' ') = true := by simp
  have hback : (name ++ (List.replicate (n + 1) ' ' ++ Nat.toDigits 10 size)).reverse =
      (Nat.toDigits 10 size).reverse ++ ' ' :: (List.replicate n ' ' ++ name.reverse) := by
    rw [List.reverse_append, List.reverse_append, List.reverse_replicate, List.replicate_succ]
    simp
  have hname : name.reverse.dropWhile (· = ' ') = name.reverse := by
    cases hr : name.reverse with
    | nil => rfl
    | cons c rest =>
      rw [← List.head?_reverse, hr, List.head?_cons, ne_eq, Option.some.injEq] at h
      rw [List.dropWhile_cons_of_neg (by simpa using h)]
  rw [readSizeLine, hback, List.takeWhile_append_of_pos hdigits,
    List.dropWhile_append_of_pos hdigits, List.takeWhile_cons_of_neg (by decide),
    List.dropWhile_cons_of_neg (by decide), List.dropWhile_cons_of_pos (by decide),
    List.dropWhile_append_of_pos hspaces, hname]
  simp [Nat.ofDigitChars_ten_toDigits]

theorem readSizeLine_sizeChars {row : Row} (h : row.IsPlain) (column : Text.Column) :
    readSizeLine (row.sizeChars column) = (row.name, row.size) := by
  rw [Row.sizeChars, readSizeLine_append h.closed, String.ofList_toList]

theorem newline_not_mem_toDigits (n : Nat) : '\n' ∉ Nat.toDigits 10 n := by
  intro hm
  have hdigit : '\n'.isDigit = true := Nat.isDigit_of_mem_toDigits (by decide) (by decide) hm
  cases hdigit

theorem newline_not_mem_sizeChars {row : Row} (h : row.IsPlain) (column : Text.Column) :
    '\n' ∉ row.sizeChars column := by
  simp only [Row.sizeChars, List.mem_append, List.mem_replicate, not_or]
  exact ⟨h.oneLine, by simp, newline_not_mem_toDigits row.size⟩

/-! ## Tables -/

theorem join_sizeLine (column : Text.Column) (rows : List Row) :
    String.join (rows.map (Row.sizeLine column)) =
      Text.ofLines (rows.map fun row => String.ofList (row.sizeChars column)) := by
  have hline : ∀ row : Row, row.sizeLine column = String.ofList (row.sizeChars column) ++ "\n" := by
    intro row
    apply String.toList_injective
    rw [Row.toList_sizeLine, String.toList_append, String.toList_ofList]
    rfl
  rw [Text.ofLines, List.map_map]
  exact congrArg String.join (List.map_congr_left fun row _ => hline row)

/-- One line for each row, and nothing behind the last line feed. -/
theorem splitOn_join_sizeLine {rows : List Row} (h : ∀ row ∈ rows, row.IsPlain)
    (column : Text.Column) :
    (String.join (rows.map (Row.sizeLine column))).toList.splitOn '\n' =
      rows.map (Row.sizeChars column) ++ [[]] := by
  rw [join_sizeLine, Text.splitOn_ofLines, List.map_map]
  · simp [Function.comp_def]
  · intro line hl
    obtain ⟨row, hr, rfl⟩ := List.mem_map.1 hl
    rw [String.toList_ofList]
    exact newline_not_mem_sizeChars (h row hr) column

theorem exists_column_of_sizeTable {rows : List Row} {table : String}
    (h : sizeTable rows = .ok table) :
    ∃ column, table = String.join (rows.map (Row.sizeLine column)) := by
  rw [sizeTable] at h
  cases hc : Row.nameColumn rows with
  | error e => rw [hc] at h; cases h
  | ok column =>
    rw [hc] at h
    cases h
    exact ⟨column, rfl⟩

theorem readSizeTable_of_sizeTable {rows : List Row} (h : ∀ row ∈ rows, row.IsPlain)
    {table : String} (ht : sizeTable rows = .ok table) :
    readSizeTable table = rows.map fun row => (row.name, row.size) := by
  obtain ⟨column, rfl⟩ := exists_column_of_sizeTable ht
  rw [readSizeTable, splitOn_join_sizeLine h, List.dropLast_concat, List.map_map]
  exact List.map_congr_left fun row hr => readSizeLine_sizeChars (h row hr) column

/-! ## Types -/

/-- Types that a table can show on one line each: no class name breaks its line, and no written
form is longer than the widest column. -/
structure Tabular (types : List (Ty Pointee)) : Prop where
  oneLine : ∀ name, Ty.toClass name ∈ types → '\n' ∉ name.toList
  fits : ∀ t ∈ types, (render t).utf8ByteSize ≤ 65535

/-- Only the name of a class can break a line. -/
theorem newline_not_mem_render {t : Ty Pointee}
    (h : ∀ name, t = .toClass name → '\n' ∉ name.toList) : '\n' ∉ (render t).toList := by
  rw [← Ty.Form.chars_ofTy]
  rcases t with s | l | c
  · cases s <;> decide
  · cases l <;> decide
  · have hc := h c.name rfl
    simp [Ty.Form.ofTy, Ty.Form.chars, Ty.reference, hc]

theorem getLast?_render_ne_space (t : Ty Pointee) : (render t).toList.getLast? ≠ some ' ' := by
  intro h
  have hlast := (Ty.solid_render t).2
  rw [h] at hlast
  exact absurd hlast (by decide)

theorem Tabular.isPlain {types : List (Ty Pointee)} (h : Tabular types) :
    ∀ row ∈ types.map Row.ofTy, row.IsPlain := by
  intro row hr
  obtain ⟨t, ht, rfl⟩ := List.mem_map.1 hr
  refine ⟨newline_not_mem_render fun name he => h.oneLine name ?_, getLast?_render_ne_space t⟩
  rw [← he]
  exact ht

theorem Tabular.exists_sizeTable {types : List (Ty Pointee)} (h : Tabular types) :
    ∃ table, sizeTable (types.map Row.ofTy) = .ok table := by
  rw [exists_sizeTable_iff]
  intro row hr
  obtain ⟨t, ht, rfl⟩ := List.mem_map.1 hr
  exact h.fits t ht

theorem Tabular.readSizeTable_eq {types : List (Ty Pointee)} (h : Tabular types) {table : String}
    (ht : sizeTable (types.map Row.ofTy) = .ok table) :
    readSizeTable table = types.map fun t => (render t, t.byteSize) := by
  rw [readSizeTable_of_sizeTable h.isPlain ht, List.map_map]
  rfl

theorem Tabular.types_eq {xs ys : List (Ty Pointee)} (hx : Tabular xs) (hy : Tabular ys)
    (h : sizeTable (xs.map Row.ofTy) = sizeTable (ys.map Row.ofTy)) : xs = ys := by
  obtain ⟨table, ht⟩ := hx.exists_sizeTable
  have hread := hx.readSizeTable_eq ht
  rw [h] at ht
  rw [hy.readSizeTable_eq ht] at hread
  have hinj : Function.Injective fun t : Ty Pointee => (render t, t.byteSize) :=
    fun t u he => Ty.render_injective (Prod.mk.inj he).1
  exact (List.map_injective_iff.2 hinj hread).symm

/-- Types without line feeds in their class names, written in no more bytes than a column is
wide, have a table. Read back, it gives the written form and the size of each of them in order,
so two lists of such types have the same table only if they are the same. -/
theorem sizeTable_determines_types {xs ys : List (Ty Pointee)} (hx : Tabular xs)
    (hy : Tabular ys) :
    (∃ table, sizeTable (xs.map Row.ofTy) = .ok table ∧
      readSizeTable table = xs.map fun t => (render t, t.byteSize)) ∧
    (sizeTable (xs.map Row.ofTy) = sizeTable (ys.map Row.ofTy) ↔ xs = ys) := by
  obtain ⟨table, ht⟩ := hx.exists_sizeTable
  exact ⟨⟨table, ht, hx.readSizeTable_eq ht⟩, hx.types_eq hy, fun h => by rw [h]⟩

/-- A class whose name ends like a line of the table, beside the class of that line. -/
theorem class_named_like_line :
    Tabular [.toClass "é>  8", .scalar .int] ∧ Tabular [.toClass "é", .scalar .int] ∧
    sizeTable ([.toClass "é>  8", .scalar .int].map Row.ofTy) ≠
      sizeTable ([.toClass "é", .scalar .int].map Row.ofTy) := by
  have hx : Tabular [.toClass "é>  8", .scalar .int] := by
    refine ⟨fun name h => ?_, by decide⟩
    obtain rfl : name = "é>  8" := by simpa [Ty.toClass] using h
    decide
  have hy : Tabular [.toClass "é", .scalar .int] := by
    refine ⟨fun name h => ?_, by decide⟩
    obtain rfl : name = "é" := by simpa [Ty.toClass] using h
    decide
  refine ⟨hx, hy, fun h => ?_⟩
  exact absurd ((sizeTable_determines_types hx hy).2.1 h) (by decide)

/-- With a line feed in its name, one class is shown like two. -/
example : sizeTable ([.toClass "A>  8\nptr<class B"].map Row.ofTy) =
      .ok "ptr<class A>  8\nptr<class B>  8\n" ∧
    sizeTable ([.toClass "A", .toClass "B"].map Row.ofTy) =
      .ok "ptr<class A>  8\nptr<class B>  8\n" := ⟨rfl, rfl⟩

end TypeLattice
