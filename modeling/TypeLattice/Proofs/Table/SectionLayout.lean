import Mathlib.Data.List.Forall2
import TypeLattice.Proofs.Table.ColoredText
import TypeLattice.Table.Lattice

/-!
# The layout of a section

A name is filled up before it is coloured, so a section in colours looks like the plain one: the
sequences apart they are the same text, and all sizes stand in one column. No colour reaches beyond
the header or the row that it is used in.

Results:

* `View.line_eq_textIn`, `sectionText_eq_textIn`: the stretches of a row and of a section;
* `Row.isLaidOut_textIn`: what is to be seen in a row, in each palette;
* `sectionText_same_layout`: both layouts of a section.
-/
namespace TypeLattice

open Text (Column)

/-! ## Rows -/

namespace Row

/-- The stretches before the size. -/
def frontStretches (column : Column) (row : Row) : List Stretch :=
  [⟨some .dim, "K" ++ render row.kind.number⟩, ⟨none, " "⟩, ⟨some .blue, column.pad row.name⟩,
    ⟨none, "  "⟩]

/-- The comment behind the size. -/
def comment (row : Row) : String :=
  match row.constant with
  | some constant => "  ; " ++ constant
  | none => ""

/-- The stretches behind the size. -/
def backStretches (row : Row) : List Stretch :=
  match row.constant with
  | some constant => [⟨some .dim, "  ; " ++ constant⟩]
  | none => []

/-- The stretches of the row. -/
def stretches (column : Column) (row : Row) : List Stretch :=
  row.frontStretches column ++ ⟨none, render row.size⟩ :: (row.backStretches ++ [⟨none, "\n"⟩])

/-- The name and the constant hold no escape character. -/
structure IsClean (row : Row) : Prop where
  name : '\x1b' ∉ row.name.toList
  constant : ∀ constant ∈ row.constant, '\x1b' ∉ constant.toList

end Row

theorem View.line_eq_textIn (p : Palette) (column : Column) (row : Row) :
    View.line p column row = textIn p (row.stretches column) := by
  unfold View.line Row.stretches Row.frontStretches Row.backStretches
  cases row.constant <;> simp [textIn, Stretch.textIn, Tone.sequence, String.append_assoc]

theorem escape_not_mem_render (n : Nat) : '\x1b' ∉ (render n).toList := by
  intro hm
  have hm : '\x1b' ∈ Nat.toDigits 10 n := by rwa [← String.toList_ofList (l := Nat.toDigits 10 n)]
  have hdigit : '\x1b'.isDigit = true := Nat.isDigit_of_mem_toDigits (by decide) (by decide) hm
  cases hdigit

namespace Row

variable {column : Column} {row : Row}

theorem IsClean.frontStretches (h : row.IsClean) : ∀ s ∈ row.frontStretches column, s.IsClean := by
  have hname := h.name
  have hnumber := escape_not_mem_render row.kind.number
  simp [Row.frontStretches, Stretch.IsClean, Column.pad, hname, hnumber]

theorem IsClean.backStretches (h : row.IsClean) : ∀ s ∈ row.backStretches, s.IsClean := by
  unfold Row.backStretches
  cases hconstant : row.constant with
  | none => simp
  | some constant =>
    have hclean := h.constant constant hconstant
    simp [Stretch.IsClean, hclean]

theorem IsClean.stretches (h : row.IsClean) : ∀ s ∈ row.stretches column, s.IsClean := by
  have hsize := escape_not_mem_render row.size
  simp only [Row.stretches, List.mem_append, List.mem_cons]
  rintro s (hs | rfl | hs | rfl | hs)
  · exact h.frontStretches s hs
  · exact hsize
  · exact h.backStretches s hs
  · exact (by decide : '\x1b' ∉ "\n".toList)
  · cases hs

/-- What is to be seen in the line of a row: its number and its name, its size behind `width + 5`
characters, and the comment. -/
def IsLaidOut (width : Nat) (row : Row) (line : String) : Prop :=
  ∃ (front back : String) (gap : Nat),
    line = front ++ render row.size ++ back ++ "\n" ∧
    visible front = "K" ++ render row.kind.number ++ " " ++ row.name ++
      String.ofList (List.replicate gap ' ') ++ "  " ∧
    (visible front).length = width + 5 ∧
    visible back = row.comment

theorem length_render_number (kind : Kind) : (render kind.number).length = 1 := by
  cases kind with
  | scalar s => cases s <;> rfl
  | reference => rfl

theorem length_frontStretches (h : row.name.utf8ByteSize ≤ column.width) :
    (textIn .plain (row.frontStretches column)).length = column.width + 5 := by
  have hpad := Column.length_pad h
  have hnumber := length_render_number row.kind
  have hk : "K".length = 1 := rfl
  have hblank : " ".length = 1 := rfl
  have hblanks : "  ".length = 2 := rfl
  simp only [frontStretches, textIn_cons, Stretch.textIn_plain, String.length_append, hpad, hnumber,
    hk, hblank, hblanks]
  have hend : (textIn .plain []).length = 0 := rfl
  omega

theorem isLaidOut_textIn (colored : Bool) (h : row.IsClean)
    (hfits : row.name.utf8ByteSize ≤ column.width) :
    row.IsLaidOut column.width (textIn (.ofColored colored) (row.stretches column)) := by
  have hclean : ∀ s ∈ row.frontStretches column, s.IsClean := h.frontStretches
  have hfront := visible_textIn colored hclean
  refine ⟨textIn (.ofColored colored) (row.frontStretches column),
    textIn (.ofColored colored) row.backStretches, column.width - row.name.length, ?_, ?_, ?_, ?_⟩
  · rw [stretches, textIn_append, textIn_cons, textIn_append]
    simp [textIn, Stretch.textIn, String.append_assoc]
  · rw [hfront]
    simp [frontStretches, textIn, Stretch.textIn_plain, Column.pad, String.append_assoc]
  · rw [hfront, length_frontStretches hfits]
  · rw [visible_textIn colored h.backStretches]
    unfold backStretches comment
    cases row.constant <;> simp [textIn, Stretch.textIn_plain]

end Row

/-! ## Sections -/

/-- The stretches of a header. -/
def headerStretches (title : String) : List Stretch :=
  [⟨some .blue, "[" ++ title ++ "]"⟩, ⟨none, "\n"⟩]

theorem isClean_headerStretches {title : String} (h : '\x1b' ∉ title.toList) :
    ∀ s ∈ headerStretches title, s.IsClean := by
  simp [headerStretches, Stretch.IsClean, h]

/-- The stretches of a section: those of its header and of each row. -/
def sectionStretches (column : Column) (title : String) (rows : List Row) : List Stretch :=
  headerStretches title ++ rows.flatMap (Row.stretches column)

theorem isClean_sectionStretches {column : Column} {title : String} {rows : List Row}
    (htitle : '\x1b' ∉ title.toList) (hrows : ∀ row ∈ rows, row.IsClean) :
    ∀ s ∈ sectionStretches column title rows, s.IsClean := by
  simp only [sectionStretches, List.mem_append, List.mem_flatMap]
  rintro s (hs | ⟨row, hrow, hs⟩)
  · exact isClean_headerStretches htitle s hs
  · exact (hrows row hrow).stretches s hs

theorem textIn_sectionStretches (p : Palette) (column : Column) (title : String) (rows : List Row) :
    textIn p (sectionStretches column title rows) = textIn p (headerStretches title) ++
      String.join (rows.map fun row => textIn p (row.stretches column)) := by
  rw [sectionStretches, textIn_append]
  congr 1
  induction rows with
  | nil => rfl
  | cons row rows ih => rw [List.flatMap_cons, textIn_append, ih, List.map_cons, String.join_cons]

theorem sectionText_eq_textIn {rows : List Row} {column : Column}
    (h : Column.widest (rows.map Row.name) = column.width) (p : Palette) (title : String) :
    View.sectionText p title rows = .ok (textIn p (sectionStretches column title rows)) := by
  have hline : View.line p column = fun row => textIn p (row.stretches column) :=
    funext (View.line_eq_textIn p column)
  rw [View.sectionText, Row.nameColumn, Column.ofTexts_eq_ok_iff.2 h, textIn_sectionStretches,
    ← hline]
  simp [bind, Except.bind, pure, Except.pure, headerStretches, textIn, Stretch.textIn,
    Tone.sequence, String.append_assoc]

/-- In colours a section is laid out as without them: the sequences apart it is the same text. All
sizes stand in one column, whatever characters the names have, and each colour is reset within the
header or within its row. -/
theorem sectionText_same_layout (title : String) (rows : List Row)
    (htitle : '\x1b' ∉ title.toList) (hrows : ∀ row ∈ rows, row.IsClean)
    (hnames : ∀ row ∈ rows, row.name.utf8ByteSize ≤ 65535) :
    (∃ colored plain, View.sectionText .ansi title rows = .ok colored ∧
      View.sectionText .plain title rows = .ok plain ∧ visible colored = plain) ∧
    ∃ width, ∀ colored, ∃ header lines,
      View.sectionText (.ofColored colored) title rows = .ok (header ++ String.join lines) ∧
      visible header = "[" ++ title ++ "]\n" ∧ Resets header ∧
      List.Forall₂ (Row.IsLaidOut width) rows lines ∧ ∀ line ∈ lines, Resets line := by
  have hlimit : Column.widest (rows.map Row.name) ≤ Column.limit := by
    rw [Column.widest_le_iff, List.forall_mem_map]
    exact hnames
  let column : Column := ⟨_, hlimit⟩
  have hwidth : Column.widest (rows.map Row.name) = column.width := rfl
  have hheader := isClean_headerStretches htitle
  constructor
  · have hclean : ∀ s ∈ sectionStretches column title rows, s.IsClean :=
      isClean_sectionStretches htitle hrows
    exact ⟨_, _, sectionText_eq_textIn hwidth .ansi title,
      sectionText_eq_textIn hwidth .plain title, visible_textIn true hclean⟩
  · refine ⟨column.width, fun colored => ⟨textIn (.ofColored colored) (headerStretches title),
      rows.map fun row => textIn (.ofColored colored) (row.stretches column), ?_, ?_,
      resets_textIn colored hheader, ?_, ?_⟩⟩
    · rw [sectionText_eq_textIn hwidth, textIn_sectionStretches]
    · rw [visible_textIn colored hheader]
      simp [headerStretches, textIn, Stretch.textIn_plain, String.append_assoc]
    · rw [List.forall₂_map_right_iff, List.forall₂_same]
      intro row hrow
      have hfits : row.name.utf8ByteSize ≤ column.width :=
        Column.utf8ByteSize_le_widest (List.mem_map_of_mem hrow)
      exact Row.isLaidOut_textIn colored (hrows row hrow) hfits
    · rw [List.forall_mem_map]
      intro row hrow
      exact resets_textIn colored (hrows row hrow).stretches

/-- A name with an accent, and a constant in only one of the rows. -/
theorem references_same_layout :
    let rows : List Row :=
      [⟨"ptr<class é>", .reference, 8, none⟩, ⟨"ptr<unit>", .reference, 8, some "TYPE_UNIT"⟩]
    (∃ colored, View.sectionText .ansi "references" rows = .ok colored ∧ visible colored =
      "[references]\nK8 ptr<class é>   8\nK8 ptr<unit>      8  ; TYPE_UNIT\n") ∧
    ∃ width, ∀ colored, ∃ header lines,
      View.sectionText (.ofColored colored) "references" rows = .ok (header ++ String.join lines) ∧
      Resets header ∧ List.Forall₂ (Row.IsLaidOut width) rows lines := by
  intro rows
  have hclean : ∀ row ∈ rows, row.IsClean := by
    simp only [rows, List.mem_cons, List.not_mem_nil, or_false]
    rintro row (rfl | rfl)
    · exact ⟨by decide +kernel, nofun⟩
    · refine ⟨by decide +kernel, fun constant h => ?_⟩
      cases h
      decide +kernel
  obtain ⟨⟨colored, plain, hcolored, hplain, hvisible⟩, width, hlaid⟩ :=
    sectionText_same_layout "references" rows (by decide +kernel) hclean (by decide +kernel)
  constructor
  · have htext : View.sectionText .plain "references" rows =
        .ok "[references]\nK8 ptr<class é>   8\nK8 ptr<unit>      8  ; TYPE_UNIT\n" := rfl
    rw [htext] at hplain
    cases hplain
    exact ⟨colored, hcolored, hvisible⟩
  · refine ⟨width, fun b => ?_⟩
    obtain ⟨header, lines, hsection, -, hresets, hlines, -⟩ := hlaid b
    exact ⟨header, lines, hsection, hresets, hlines⟩

end TypeLattice
