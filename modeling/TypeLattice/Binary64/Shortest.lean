import TypeLattice.Binary64.Basic

/-!
# The shortest decimal of a number

A decimal reads as the finite number nearest to it; halfway between two numbers it reads
as the one with even magnitude. `shortest` is the decimal with the fewest digits that
reads as a given number, and of those the one nearest to it.

Everything is counted in units of 10^-1074, in which every finite number is whole. The
decimals that read as a number form an `Interval` around it. A grid is the multiples of a
power of ten. On each grid only the two neighbours of the number matter: if any multiple
reads as the number, one of them does. The search goes from a grid coarser than the number
to the finest, and ends there at the latest, since the number itself lies on it
(`value_fromGrid_zero`).
-/
namespace TypeLattice.Binary64

/-- A magnitude in units of 10^-1074. -/
def scaled (n : Nat) : Nat := units n * Nat.pow 5 1074

/-- The decimals that read as a number. -/
structure Interval where
  /-- The number itself. -/
  exact : Nat
  /-- Twice the lower end. -/
  low : Nat
  /-- Twice the upper end. -/
  high : Nat
  /-- Whether the ends belong to it. -/
  closed : Bool
  deriving DecidableEq, Repr

/-- A decimal: so many steps on the grid of 10^`grid` units of 10^-1074. -/
structure Decimal where
  digits : Nat
  grid : Nat
  deriving DecidableEq, Repr

/-- The decimal in units of 10^-1074. -/
def Decimal.value (d : Decimal) : Nat := d.digits * Nat.pow 10 d.grid

namespace Interval

/-- The interval of a magnitude. It ends halfway to the neighbours. -/
def ofMagnitude (n : Nat) : Interval where
  exact := scaled n
  low := scaled (n - 1) + scaled n
  high := scaled n + scaled (n + 1)
  closed := n % 2 = 0

/-- Whether the value reads as the number. -/
def holds (i : Interval) (x : Nat) : Bool :=
  if i.closed then i.low ≤ 2 * x && 2 * x ≤ i.high else i.low < 2 * x && 2 * x < i.high

/-- The nearest decimal on a grid that reads as the number. Halfway between two, it is the
greater. -/
def onGrid? (i : Interval) (grid : Nat) : Option Decimal :=
  let below : Decimal := ⟨i.exact / Nat.pow 10 grid, grid⟩
  let above : Decimal := ⟨i.exact / Nat.pow 10 grid + 1, grid⟩
  match i.holds below.value, i.holds above.value with
  | true, true => some (if i.exact - below.value < above.value - i.exact then below else above)
  | true, false => some below
  | false, true => some above
  | false, false => none

/-- The decimal on the coarsest grid, from the given one down, that has one. -/
def fromGrid (i : Interval) : Nat → Decimal
  | 0 => ⟨i.exact, 0⟩
  | grid + 1 => (i.onGrid? (grid + 1)).getD (i.fromGrid grid)

/-- A grid coarser than the number. -/
def coarsest (i : Interval) : Nat := 4 * (i.exact.log2 / 13 + 1)

theorem value_fromGrid_zero (i : Interval) : (i.fromGrid 0).value = i.exact := by
  simp [fromGrid, Decimal.value]

end Interval

/-- The shortest decimal that reads as the magnitude of a finite number. -/
def shortest (n : Nat) : Decimal :=
  let i := Interval.ofMagnitude n
  i.fromGrid i.coarsest

end TypeLattice.Binary64
