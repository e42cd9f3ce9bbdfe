import TypeLattice.Ty.Basic

/-!
# Predefined types

The shared constants of the lattice. A scalar carries no payload, so a single constant serves
every value of its kind; the five builtin references are exported under names of their own.
These names also mark their rows in tables, so they are looked up by type
(`constant?_toLabel`, `constant?_toClass`).
-/
namespace TypeLattice

/-- The constant of a scalar type. -/
def Scalar.constant : Scalar → String
  | .boolean => "TYPE_BOOLEAN"
  | .byte => "TYPE_BYTE"
  | .short => "TYPE_SHORT"
  | .int => "TYPE_INT"
  | .long => "TYPE_LONG"
  | .float => "TYPE_FLOAT"
  | .double => "TYPE_DOUBLE"
  | .char => "TYPE_CHAR"

/-- The constant of the builtin reference with a label: `TYPE_UNIT` is the invalid pointer,
`TYPE_PTR` points to an object that nothing is known about. -/
def Label.constant : Label → String
  | .unit => "TYPE_UNIT"
  | .string => "TYPE_STRING"
  | .function => "TYPE_FUNCTION"
  | .block => "TYPE_BLOCK"
  | .ptr => "TYPE_PTR"

namespace Ty

/-- The scalar types with the names they are exported under, in the order of their
discriminants. -/
def exportedScalars : List (String × Ty Pointee) :=
  Scalar.all.map fun s => (s.constant, .scalar s)

/-- The builtin references with the names they are exported under, in the order of the labels. -/
def exportedReferences : List (String × Ty Pointee) :=
  Label.all.map fun l => (l.constant, toLabel l)

/-- All predefined types with the names they are exported under. -/
def exported : List (String × Ty Pointee) := exportedScalars ++ exportedReferences

/-- The predefined type exported under a name. -/
def ofConstant? (name : String) : Option (Ty Pointee) :=
  (exported.find? (·.1 = name)).map (·.2)

/-- The name under which a type is exported, if it is a builtin reference. -/
def constant? (t : Ty Pointee) : Option String :=
  (exportedReferences.find? (·.2 = t)).map (·.1)

theorem constant?_scalar (s : Scalar) : constant? (.scalar s) = none := by cases s <;> rfl

theorem constant?_toLabel (l : Label) : constant? (toLabel l) = some l.constant := by
  cases l <;> rfl

theorem constant?_toClass (name : String) : constant? (toClass name) = none := by
  simp [constant?, exportedReferences, Label.all, toLabel, toClass]

end Ty

end TypeLattice
