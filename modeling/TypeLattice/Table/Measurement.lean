import TypeLattice.Table.Row
import TypeLattice.Ty.Parser

/-!
# Measuring types by name

Every name is parsed, from left to right, stopping at the first that is not a lattice type. A
`Measurement` holds the names parsed, each with its type, and that failure if there is one. Only
a measurement without failure has rows, one entry for each name in order.
-/
namespace TypeLattice

/-- A name that is not a lattice type, and why. -/
structure MeasureError where
  name : String
  cause : ParseError
  deriving DecidableEq, Repr

/-- The wording of the error; the name stands as it was given. -/
def MeasureError.message (e : MeasureError) : String :=
  e.cause.message ++ " in `" ++ e.name ++ "`"

/-- What came of parsing names as types. -/
structure Measurement where
  /-- The names before the failure with their types. -/
  read : List (String × Ty Pointee)
  failure : Option MeasureError
  deriving DecidableEq, Repr

namespace Measurement

/-- Parses every name, stopping at the first that is not a lattice type. -/
def ofNames : List String → Measurement
  | [] => ⟨[], none⟩
  | name :: names =>
    match Ty.parse name with
    | .error cause => ⟨[], some ⟨name, cause⟩⟩
    | .ok t =>
      let later := ofNames names
      ⟨(name, t) :: later.read, later.failure⟩

/-- The entries of the types parsed, if every name is a type. -/
def rows (m : Measurement) : Except MeasureError (List Row) :=
  match m.failure with
  | some e => .error e
  | none => .ok (m.read.map fun (_, t) => Row.ofTy t)

end Measurement

/-- The entries of the named types, or the first name that is not a lattice type. -/
def measure (names : List String) : Except MeasureError (List Row) :=
  (Measurement.ofNames names).rows

theorem measure_nil : measure [] = .ok [] := rfl

theorem measure_cons_of_error {name : String} {names : List String} {cause : ParseError}
    (h : Ty.parse name = .error cause) : measure (name :: names) = .error ⟨name, cause⟩ := by
  simp [measure, Measurement.ofNames, Measurement.rows, h]

theorem measure_cons_of_ok {name : String} {names : List String} {t : Ty Pointee}
    (h : Ty.parse name = .ok t) :
    measure (name :: names) = (measure names).map (Row.ofTy t :: ·) := by
  simp only [measure, Measurement.ofNames, Measurement.rows, h]
  split <;> rfl

end TypeLattice
