import TypeLattice.Table.Row

/-!
# The dump of the lattice

The lattice holds every scalar kind and every builtin reference. A `View` configures its dump:
which of the sections `[scalars]` and `[references]` to show, and in which palette. `View.rows`
are the lattice entries selected, `View.text` is the dump, readable by people: the sections in
order, with an empty line between them.

The names in the lattice are short, so its table can always be laid out (`exists_text`).
-/
namespace TypeLattice

/-! ## Palettes -/

/-- The colours of a dump, as the escape codes written around its parts. -/
structure Palette where
  /-- Before section headers and type names. -/
  blue : String
  /-- Before kind ids and comments. -/
  dim : String
  /-- Back to the default, after either. -/
  reset : String
  deriving DecidableEq, Repr

namespace Palette

/-- The ANSI escape codes for a terminal, from the standard 16 colours. -/
def ansi : Palette := ⟨"\x1b[34m", "\x1b[2m", "\x1b[0m"⟩

/-- Empty strings, for pipes and files. -/
def plain : Palette := ⟨"", "", ""⟩

/-- Picks the palette with colours or the one without. -/
def ofColored (colored : Bool) : Palette := if colored then ansi else plain

/-- Whether the palette emits escape codes. -/
def isColored (p : Palette) : Bool := p.blue ≠ ""

theorem isColored_ofColored (colored : Bool) : (ofColored colored).isColored = colored := by
  cases colored <;> decide

end Palette

/-! ## Views -/

/-- The configuration of a dump: which parts of the lattice to show, and how. -/
structure View where
  /-- Include the `[scalars]` section. -/
  scalars : Bool := true
  /-- Include the `[references]` section. -/
  references : Bool := true
  palette : Palette := .plain
  deriving DecidableEq, Repr

namespace View

/-! ## Settings -/

/-- A new value for one setting of the configuration. -/
inductive Change where
  | scalars (shown : Bool)
  | references (shown : Bool)
  | colored (colored : Bool)
  deriving DecidableEq, Repr

/-- The configuration with one setting replaced. -/
def change (v : View) : Change → View
  | .scalars shown => { v with scalars := shown }
  | .references shown => { v with references := shown }
  | .colored colored => { v with palette := .ofColored colored }

/-! ## Rows -/

/-- The lattice entries that the configuration selects: every scalar kind by its discriminant,
then every builtin reference with its exported constant. -/
def rows (v : View) : List Row :=
  (if v.scalars then Scalar.all.map fun s => Row.exportedAs none (.scalar s) else []) ++
    (if v.references then
      Ty.exportedReferences.map fun (constant, t) => Row.exportedAs (some constant) t
    else [])

/-! ## Sections -/

/-- The line of an entry, such as `K8 ptr<unit>      8  ; TYPE_UNIT`: the id of its kind, its
name, its size, and its constant as a comment. The name is filled up inside the coloured part. -/
def line (p : Palette) (column : Text.Column) (row : Row) : String :=
  p.dim ++ "K" ++ render row.kind.number ++ p.reset ++ " " ++
    p.blue ++ column.pad row.name ++ p.reset ++ "  " ++ render row.size ++
    (match row.constant with
      | some constant => p.dim ++ "  ; " ++ constant ++ p.reset
      | none => "") ++ "\n"

/-- A section of the dump under its title. Its column of names is as wide as its own entries
need. -/
def sectionText (p : Palette) (title : String) (rows : List Row) :
    Except Text.LayoutError String := do
  let column ← Row.nameColumn rows
  return p.blue ++ "[" ++ title ++ "]" ++ p.reset ++ "\n" ++
    String.join (rows.map (line p column))

/-- The sections that the configuration selects, with their titles and entries. -/
def sections (v : View) : List (String × List Row) :=
  (if v.scalars then [("scalars", v.rows.filter (·.kind.isScalar))] else []) ++
    (if v.references then [("references", v.rows.filter (·.kind.isReference))] else [])

/-- The dump of the lattice. -/
def text (v : View) : Except Text.LayoutError String := do
  let texts ← v.sections.mapM fun (title, rows) => sectionText v.palette title rows
  return "\n".intercalate texts

theorem exists_text (v : View) : ∃ table, v.text = .ok table := by
  obtain ⟨scalars, references, palette⟩ := v
  cases scalars <;> cases references <;> exact ⟨_, rfl⟩

end View

end TypeLattice
