/-!
# Columns

A column is as wide as the longest of its texts in UTF-8 bytes, while a text is filled up
with spaces to that many characters. A text has no more characters than bytes, so every
text fits and every filled text has the width of the column (`length_pad`), though a text
with characters of several bytes leaves room. A column wider than `Column.limit` cannot be
laid out.
-/
namespace TypeLattice.Text

/-- A text has no more characters than bytes. -/
theorem length_le_utf8ByteSize (text : String) : text.length ≤ text.utf8ByteSize := by
  have of_list : ∀ cs : List Char, cs.length ≤ (String.ofList cs).utf8ByteSize := by
    intro cs
    induction cs with
    | nil => exact Nat.zero_le _
    | cons c cs ih =>
      have split : String.ofList (c :: cs) = String.singleton c ++ String.ofList cs := by
        rw [String.singleton_eq_ofList, ← String.ofList_append, List.singleton_append]
      have one_byte := c.utf8Size_pos
      rw [split, String.utf8ByteSize_append, List.length_cons]
      simp
      omega
  rw [← String.length_toList]
  simpa using of_list text.toList

/-- Why a table cannot be laid out. -/
inductive LayoutError where
  /-- A column of this width is over the limit. -/
  | columnTooWide (width : Nat)
  deriving DecidableEq, Repr

/-- The wording of a layout error. -/
def LayoutError.message : LayoutError → String
  | .columnTooWide _ => "Formatting argument out of range"

/-- The width of the widest column: a runtime width of 16 bits. -/
def Column.limit : Nat := 65535

/-- A column of a width that can be laid out. -/
structure Column where
  width : Nat
  width_le : width ≤ Column.limit

namespace Column

/-- The UTF-8 length of the longest text; zero if there is none. -/
def widest (texts : List String) : Nat := (texts.map String.utf8ByteSize).foldr max 0

/-- The column that holds the texts. -/
def ofTexts (texts : List String) : Except LayoutError Column :=
  if h : widest texts ≤ limit then .ok ⟨widest texts, h⟩
  else .error (.columnTooWide (widest texts))

/-- The text with spaces after it, up to the width of the column in characters. -/
def pad (column : Column) (text : String) : String :=
  text ++ String.ofList (List.replicate (column.width - text.length) ' ')

theorem ofTexts_eq_ok_iff {texts : List String} {column : Column} :
    ofTexts texts = .ok column ↔ widest texts = column.width := by
  obtain ⟨width, width_le⟩ := column
  rw [ofTexts]
  split
  · next h => simp
  · next h => simp only [reduceCtorEq, false_iff]; rintro rfl; exact h width_le

theorem utf8ByteSize_le_widest {texts : List String} {text : String} (h : text ∈ texts) :
    text.utf8ByteSize ≤ widest texts := by
  induction texts with
  | nil => cases h
  | cons head rest ih =>
    rw [widest, List.map_cons, List.foldr_cons]
    rcases List.mem_cons.1 h with rfl | later
    · exact Nat.le_max_left ..
    · exact Nat.le_trans (ih later) (Nat.le_max_right ..)

/-- The widest text is no wider than a bound that holds of all. -/
theorem widest_le_iff {texts : List String} {bound : Nat} :
    widest texts ≤ bound ↔ ∀ text ∈ texts, text.utf8ByteSize ≤ bound := by
  constructor
  · intro h text hm
    exact Nat.le_trans (utf8ByteSize_le_widest hm) h
  · intro h
    induction texts with
    | nil => exact Nat.zero_le bound
    | cons text texts ih =>
      have hrest := ih fun t ht => h t (List.mem_cons_of_mem text ht)
      exact Nat.max_le.2 ⟨h text List.mem_cons_self, hrest⟩

theorem length_pad {column : Column} {text : String} (fits : text.utf8ByteSize ≤ column.width) :
    (column.pad text).length = column.width := by
  have := length_le_utf8ByteSize text
  rw [pad, String.length_append, String.length_ofList, List.length_replicate]
  omega

end Column

end TypeLattice.Text
