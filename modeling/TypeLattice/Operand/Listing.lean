import TypeLattice.Operand.Basic

/-!
# Listings

A listing is a sequence of operands that is edited by position. An edit names the operand
it touches by its index, counted from zero; an edit that names no operand is refused and
changes nothing.

A listing is written with one line for each operand.
-/
namespace TypeLattice

/-- A sequence of operands. -/
abbrev Listing := List (Operand Pointee)

namespace Listing

/-- A change of a listing. -/
inductive Edit where
  /-- Appends an operand. -/
  | push (operand : Operand Pointee)
  /-- Appends a copy of the operand at `i`. -/
  | duplicate (i : Nat)
  /-- Gives the operand at `i` another type. -/
  | retag (i : Nat) (ty : Ty Pointee)
  /-- Gives the operand at `i` the type of the one at `j`. -/
  | retagAs (i j : Nat)
  /-- Gives the operand at `i` another content. -/
  | refill (i : Nat) (value : Literal) (name : String)
  /-- Exchanges the operands at `i` and `j`. -/
  | swap (i j : Nat)
  /-- Removes the operand at `i`; later ones move down. -/
  | remove (i : Nat)
  deriving DecidableEq, Repr

/-- The operand that an edit touches, as it is afterwards, and the listing afterwards. A
removed operand is shown as it was. -/
def edit? (l : Listing) : Edit → Option (Operand Pointee × Listing)
  | .push operand => some (operand, l ++ [operand])
  | .duplicate i => do
    let a ← l[i]?
    return (a, l ++ [a])
  | .retag i ty => do
    let a ← l[i]?
    return (a.retag ty, l.set i (a.retag ty))
  | .retagAs i j => do
    let a ← l[i]?
    let b ← l[j]?
    return (a.retag b.ty, l.set i (a.retag b.ty))
  | .refill i value name => do
    let a ← l[i]?
    return (a.refill value name, l.set i (a.refill value name))
  | .swap i j => do
    let a ← l[i]?
    let b ← l[j]?
    return (b, (l.set i b).set j a)
  | .remove i => do
    let a ← l[i]?
    return (a, l.eraseIdx i)

/-- The bytes that all operands take together. -/
def byteSize (l : Listing) : Nat := l.foldr (fun o total => o.byteSize + total) 0

/-- The operands, each followed by a line feed. -/
def text (l : Listing) : String := String.join (l.map fun o => render o ++ "\n")

end Listing

end TypeLattice
