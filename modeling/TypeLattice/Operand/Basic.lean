import TypeLattice.Binary64.Text
import TypeLattice.Text.Quoted
import TypeLattice.Ty.Basic

/-!
# Operands

The typed operands of the IR. Every value that an instruction reads is a constant or a named
variable, tagged with the lattice type that decides how it is stored: `42` is the constant
`int 42`, and a variable `obj` of class `A` is `%obj: ptr<class A>`. Operands do not check that
a value fits its type: any literal may carry any type.

The written form of a literal shows which sort it is: characters and strings stand in their own
quotes, symbols begin with `@`, and a number has a point, an exponent or a word for what is no
finite number exactly when it is a floating-point number. Characters and strings are written on
one line, symbols as they are. A constant is written as its type and its value, a variable as
its name and its type.
-/
namespace TypeLattice

/-! ## Literals -/

/-- The literal payload of a constant: its value, without a type. -/
inductive Literal where
  | bool (value : Bool)
  | int (value : Int64)
  | float (value : Binary64)
  | char (value : Char)
  /-- The contents of a string literal, without quotes and escapes. -/
  | string (value : String)
  /-- The name of a function or of a basic block. -/
  | symbol (name : String)
  deriving DecidableEq, Repr

namespace Literal

/-- Equality of values, which for floating-point numbers is equality of numbers. -/
def equals : Literal → Literal → Bool
  | float x, float y => x.equals y
  | x, y => x = y

end Literal

instance : Render Literal where
  render
    | .bool value => render value
    | .int value => render value.toInt
    | .float value => render value
    | .char value => Text.quotedChar value
    | .string value => Text.quotedString value
    | .symbol name => "@" ++ name

/-! ## Constants and variables -/

/-- A value that an instruction reads: a constant or a named variable, with its type. -/
inductive Operand (α : Type) where
  | constant (ty : Ty α) (value : Literal)
  | var (ty : Ty α) (name : String)
  deriving DecidableEq, Repr

namespace Operand

variable {α : Type}

/-- The type of the operand. -/
def ty : Operand α → Ty α
  | constant ty _ => ty
  | var ty _ => ty

/-- The number of bytes that the operand occupies, which is the size of its type. -/
def byteSize (o : Operand α) : Nat := o.ty.byteSize

/-- What the operand holds besides its type: the written value or the name. -/
def content : Operand α → String
  | constant _ value => render value
  | var _ name => name

/-- The operand with another type. -/
def retag (ty : Ty α) : Operand α → Operand α
  | constant _ value => constant ty value
  | var _ name => var ty name

/-- The operand with another content: a constant takes the value, a variable the name. -/
def refill (value : Literal) (name : String) : Operand α → Operand α
  | constant ty _ => constant ty value
  | var ty _ => var ty name

/-- Equality of operands; values of constants are compared as `Literal.equals` does. -/
def equals [DecidableEq α] : Operand α → Operand α → Bool
  | constant ty value, constant ty' value' => ty = ty' && value.equals value'
  | var ty name, var ty' name' => ty = ty' && name = name'
  | _, _ => false

instance [Render α] : Render (Operand α) where
  render
    | constant ty value => render ty ++ " " ++ render value
    | var ty name => "%" ++ name ++ ": " ++ render ty

/-! ## Constants of the common types -/

/-- The constant of a truth value, of type `boolean`. -/
def boolean (value : Bool) : Operand α := constant (.scalar .boolean) (.bool value)

/-- The constant of a number of 32 bits, of type `int`. -/
def int (value : Int32) : Operand α := constant (.scalar .int) (.int value.toInt64)

/-- The constant of a number of 64 bits, of type `long`. -/
def long (value : Int64) : Operand α := constant (.scalar .long) (.int value)

/-- The constant of a floating-point number of 64 bits, of type `double`. -/
def double (value : Binary64) : Operand α := constant (.scalar .double) (.float value)

/-- The constant of a character, of type `char`. -/
def char (value : Char) : Operand α := constant (.scalar .char) (.char value)

/-- The constant of a string, of type `ptr<string>`. -/
def string (value : String) : Operand Pointee := constant (.toLabel .string) (.string value)

/-- The constant of a function by its name, of type `ptr<function>`. -/
def function (name : String) : Operand Pointee := constant (.toLabel .function) (.symbol name)

/-- The constant of a basic block by its name, of type `ptr<block>`. -/
def block (name : String) : Operand Pointee := constant (.toLabel .block) (.symbol name)

end Operand

end TypeLattice
