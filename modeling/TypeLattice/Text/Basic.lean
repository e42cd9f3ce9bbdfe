/-!
# Texts

`Render` is the class of types whose values have one written form. Strings are written as
they are, numbers in decimal, truth values as words.

`after? start s` is what follows `start` at the beginning of `s`; `before? last s` is
what precedes the character `last` at the end of `s`. Each succeeds exactly when the
text can be put together again (`after?_eq_some_iff`, `before?_eq_some_iff`), and fails
exactly when the text does not begin or end so (`after?_eq_none_iff`,
`before?_eq_none_iff`).
-/
namespace TypeLattice

/-! ## Written forms -/

/-- Types whose values have a written form. -/
class Render (α : Type) where
  /-- The written form of a value. -/
  render : α → String

export Render (render)

namespace Text

/-- The decimal digits of a number, without leading zeros. -/
def decimal (n : Nat) : String := String.ofList (Nat.toDigits 10 n)

/-- An integer in decimal, with a sign where it is negative. -/
def signedDecimal : Int → String
  | .ofNat n => decimal n
  | .negSucc n => "-" ++ decimal (n + 1)

end Text

instance : Render String := ⟨id⟩

instance : Render Nat := ⟨Text.decimal⟩

instance : Render Int := ⟨Text.signedDecimal⟩

instance : Render Bool := ⟨fun b => if b then "true" else "false"⟩

/-! ## What stands at the ends of a text -/

namespace Text

/-- What follows `start` in a text that begins with it. -/
def after? : List Char → List Char → Option (List Char)
  | [], s => some s
  | _ :: _, [] => none
  | a :: start, b :: s => if a = b then after? start s else none

/-- What precedes `last` in a text that ends with it. -/
def before? (last : Char) (s : List Char) : Option (List Char) :=
  if s.getLast? = some last then some s.dropLast else none

theorem after?_eq_some_iff {start s rest : List Char} :
    after? start s = some rest ↔ s = start ++ rest := by
  induction start generalizing s with
  | nil => simp [after?]
  | cons a start ih =>
    cases s with
    | nil => simp [after?]
    | cons b s => grind [after?]

theorem after?_eq_none_iff {start s : List Char} : after? start s = none ↔ ¬start <+: s := by
  rw [Option.eq_none_iff_forall_ne_some]
  refine ⟨fun h ⟨rest, hs⟩ => h rest (after?_eq_some_iff.2 hs.symm), fun h rest hs => h ⟨rest, ?_⟩⟩
  exact (after?_eq_some_iff.1 hs).symm

theorem before?_eq_some_iff {last : Char} {s init : List Char} :
    before? last s = some init ↔ s = init ++ [last] := by
  rw [before?]
  split
  · next ends =>
    obtain ⟨front, rfl⟩ := List.getLast?_eq_some_iff.1 ends
    simp
  · next ends =>
    refine ⟨nofun, fun h => (ends ?_).elim⟩
    simp [h]

theorem before?_eq_none_iff {last : Char} {s : List Char} :
    before? last s = none ↔ ¬[last] <:+ s := by
  rw [Option.eq_none_iff_forall_ne_some]
  refine ⟨fun h ⟨init, hs⟩ => h init (before?_eq_some_iff.2 hs.symm), fun h init hs => h ⟨init, ?_⟩⟩
  exact (before?_eq_some_iff.1 hs).symm

end Text

end TypeLattice
