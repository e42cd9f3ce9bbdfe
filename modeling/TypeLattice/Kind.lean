import TypeLattice.Text.Basic

/-!
# Kinds

The type kinds of the lattice, without the payload of a reference: eight scalar kinds, and
`ptr` for every reference. Tables talk about a kind without having a concrete reference in
hand. The kind decides the display name, the discriminant and the byte size, whatever a
reference points to.

The names can be read back (`Scalar.ofName?_eq_some_iff`, `Kind.ofName?_name`).
-/
namespace TypeLattice

/-- The eight scalar kinds: fixed size, stored inline. -/
inductive Scalar where
  | boolean
  | byte
  | short
  | int
  | long
  | float
  | double
  | char
  deriving DecidableEq, Repr

/-- The storage kind of an IR value: a scalar kind, or a pointer to something that a payload
describes. -/
inductive Kind where
  | scalar (s : Scalar)
  | reference
  deriving DecidableEq, Repr

/-- The size in bytes of every reference; only targets of 64 bits are supported. -/
def pointerSize : Nat := 8

/-! ## Scalars -/

namespace Scalar

/-- The scalar kinds in the order of their discriminants. -/
def all : List Scalar := [.boolean, .byte, .short, .int, .long, .float, .double, .char]

/-- The display name, as used in dumps of the IR. -/
def name : Scalar → String
  | .boolean => "boolean"
  | .byte => "byte"
  | .short => "short"
  | .int => "int"
  | .long => "long"
  | .float => "float"
  | .double => "double"
  | .char => "char"

/-- The scalar kind of that display name. -/
def ofName? (text : String) : Option Scalar := all.find? (·.name = text)

/-- The raw discriminant. -/
def number : Scalar → Nat
  | .boolean => 0
  | .byte => 1
  | .short => 2
  | .int => 3
  | .long => 4
  | .float => 5
  | .double => 6
  | .char => 7

/-- The number of bytes that a value takes. The sizes are fixed by the lattice and follow no
ABI: a byte and a char are both two bytes wide. -/
def byteSize : Scalar → Nat
  | .boolean => 1
  | .byte => 2
  | .short => 2
  | .int => 4
  | .long => 8
  | .float => 4
  | .double => 8
  | .char => 2

/-- Whether values live in integer registers. A boolean does not; a char is an unsigned code
unit of 16 bits. -/
def isIntegral : Scalar → Bool
  | .byte | .short | .int | .long | .char => true
  | .boolean | .float | .double => false

/-- Whether this is a floating-point kind. -/
def isFloating : Scalar → Bool
  | .float | .double => true
  | _ => false

theorem ofName?_name (s : Scalar) : ofName? s.name = some s := by cases s <;> rfl

theorem ofName?_eq_some_iff {text : String} {s : Scalar} :
    ofName? text = some s ↔ text = s.name := by
  constructor
  · intro found
    have named := List.find?_some found
    exact (of_decide_eq_true named).symm
  · rintro rfl
    exact ofName?_name s

theorem name_injective {s t : Scalar} (h : s.name = t.name) : s = t := by
  have same := ofName?_name s
  rw [h, ofName?_name] at same
  exact (Option.some.inj same).symm

end Scalar

/-! ## Kinds -/

namespace Kind

/-- Every kind, in the order of the discriminants. -/
def all : List Kind := Scalar.all.map .scalar ++ [.reference]

/-- The display name of the kind, as used in dumps of the IR. -/
def name : Kind → String
  | .scalar s => s.name
  | .reference => "ptr"

/-- The kind of that display name. -/
def ofName? (text : String) : Option Kind := all.find? (·.name = text)

/-- The raw discriminant of the kind, its position in `all`. -/
def number : Kind → Nat
  | .scalar s => s.number
  | .reference => 8

/-- The kind of that raw discriminant. -/
def ofNumber? (n : Nat) : Option Kind := all[n]?

/-- The number of bytes that a value of the kind occupies. -/
def byteSize : Kind → Nat
  | .scalar s => s.byteSize
  | .reference => pointerSize

/-- Whether values of the kind are stored inline, with no indirection. -/
def isScalar : Kind → Bool
  | .scalar _ => true
  | .reference => false

/-- Whether values of the kind are references. -/
def isReference (k : Kind) : Bool := !k.isScalar

/-- Whether values of the kind live in integer registers. -/
def isIntegral : Kind → Bool
  | .scalar s => s.isIntegral
  | .reference => false

/-- Whether this is a floating-point kind. -/
def isFloating : Kind → Bool
  | .scalar s => s.isFloating
  | .reference => false

theorem ofName?_name (k : Kind) : ofName? k.name = some k := by
  cases k with
  | scalar s => cases s <;> rfl
  | reference => rfl

end Kind

instance : Render Kind := ⟨Kind.name⟩

end TypeLattice
