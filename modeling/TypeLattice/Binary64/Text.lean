import TypeLattice.Binary64.Shortest
import TypeLattice.Text.Basic

/-!
# The written form of a number

A finite number is written with the digits of its shortest decimal: positionally from
10^-4 up to 10^16, with at least one digit after the point, otherwise with a power of
ten. So a number is never written like an integer. NaN has no sign.
-/
namespace TypeLattice.Binary64

/-- The lowest power of ten whose multiples are written positionally. -/
def leastPositional : Int := -4

/-- The lowest power of ten whose multiples are again written with that power. -/
def leastScientific : Int := 16

/-- Digits after a point; there is at least one. -/
def fraction (digits : List Char) : List Char :=
  '.' :: if digits = [] then ['0'] else digits

/-- The digits with the point placed so that the first counts 10^`power`. -/
def positional (digits : List Char) (power : Int) : List Char :=
  if power < 0 then
    '0' :: fraction (List.replicate (-power - 1).toNat '0' ++ digits)
  else
    let whole := power.toNat + 1
    digits.take whole ++ List.replicate (whole - digits.length) '0' ++ fraction (digits.drop whole)

/-- The digits with the point after the first and the power of ten that it counts. A
single digit takes no point. -/
def scientific (digits : List Char) (power : Int) : List Char :=
  let rest := digits.drop 1
  digits.take 1 ++ (if rest = [] then [] else fraction rest) ++
    'e' :: (Text.signedDecimal power).toList

/-- The power of ten that the first digit of a decimal counts. -/
def Decimal.power (d : Decimal) : Int :=
  ((Nat.toDigits 10 d.digits).length + d.grid : Nat) - 1075

/-- The written form of a decimal. -/
def Decimal.text (d : Decimal) : String :=
  let digits := Nat.toDigits 10 d.digits
  if leastPositional ≤ d.power ∧ d.power < leastScientific then
    String.ofList (positional digits d.power)
  else
    String.ofList (scientific digits d.power)

/-- The written form of a magnitude that is a number. -/
def magnitudeText (n : Nat) : String :=
  if n = 0 then "0.0"
  else if n = infinite then "inf"
  else (shortest n).text

/-- The written form of a number. -/
def text (x : Binary64) : String :=
  if x.isNaN then "NaN"
  else (if x.isNegative then "-" else "") ++ magnitudeText x.magnitude

end TypeLattice.Binary64

namespace TypeLattice

instance : Render Binary64 := ⟨Binary64.text⟩

end TypeLattice
