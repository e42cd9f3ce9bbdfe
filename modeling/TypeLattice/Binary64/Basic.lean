/-!
# Double-precision numbers

A `Binary64` is a word of the IEEE 754 format binary64: a sign and a magnitude. The
magnitudes below `infinite` are the finite numbers in ascending order, `units` gives
their values in units of 2^-1074, the least positive one; above `infinite` there is no
number. Words are told apart by their bits, numbers by `equals`: no number equals NaN,
and the two zeros are equal.
-/
namespace TypeLattice

/-- A word of the format binary64. -/
structure Binary64 where
  bits : UInt64
  deriving DecidableEq, Repr

namespace Binary64

/-- The weight of the sign bit. -/
def signWeight : Nat := 0x8000000000000000

/-- The word without its sign. -/
def magnitude (x : Binary64) : Nat := x.bits.toNat % signWeight

/-- Whether the sign is set. -/
def isNegative (x : Binary64) : Bool := signWeight ≤ x.bits.toNat

/-- How many magnitudes share an exponent: two to the power of 52. -/
def binade : Nat := 0x10000000000000

/-- The magnitude of infinity. -/
def infinite : Nat := 0x7FF * binade

/-- Whether the word is no number. -/
def isNaN (x : Binary64) : Bool := infinite < x.magnitude

/-- Whether the number is one of the two zeros. -/
def isZero (x : Binary64) : Bool := x.magnitude = 0

/-- Equality of numbers: NaN differs from itself and the zeros are equal. -/
def equals (x y : Binary64) : Bool :=
  !x.isNaN && !y.isNaN && (x.bits = y.bits || x.isZero && y.isZero)

/-- The value of a magnitude in units of 2^-1074. The numbers of the first two binades are
equally spaced; from there on the spacing doubles with every binade. At `infinite` stands
the value at which a wider format would go on. -/
def units (n : Nat) : Nat :=
  if n < binade then n else (binade + n % binade) * Nat.pow 2 (n / binade - 1)

theorem equals_nan {x y : Binary64} (h : x.isNaN = true) : equals x y = false := by
  simp [equals, h]

theorem equals_self {x : Binary64} (h : x.isNaN = false) : equals x x = true := by
  simp [equals, h]

end Binary64

end TypeLattice
