import TypeLattice.Text.Basic

/-!
# What a reference points to

The default payload of a reference is its referent: the label of a builtin reference, or a
class. The labels are a closed set, so that no label spells out the rendering of a class.
Class names are free text: any string names a class, also the empty one and one that spells
a label.
-/
namespace TypeLattice

/-- The label of one of the five builtin references. -/
inductive Label where
  | unit
  | string
  | function
  | block
  | ptr
  deriving DecidableEq, Repr

namespace Label

/-- The labels in the order in which the builtin references are listed. -/
def all : List Label := [.unit, .string, .function, .block, .ptr]

/-- The rendered name of the label. -/
def name : Label → String
  | .unit => "unit"
  | .string => "string"
  | .function => "function"
  | .block => "block"
  | .ptr => "ptr"

/-- The label of that rendered name; upper and lower case differ. -/
def ofName? (text : String) : Option Label := all.find? (·.name = text)

theorem ofName?_name (l : Label) : ofName? l.name = some l := by cases l <;> rfl

theorem ofName?_eq_some_iff {text : String} {l : Label} :
    ofName? text = some l ↔ text = l.name := by
  constructor
  · intro found
    have named := List.find?_some found
    exact (of_decide_eq_true named).symm
  · rintro rfl
    exact ofName?_name l

theorem name_injective {l m : Label} (h : l.name = m.name) : l = m := by
  have same := ofName?_name l
  rw [h, ofName?_name] at same
  exact (Option.some.inj same).symm

end Label

instance : Render Label := ⟨Label.name⟩

/-- A user-defined class, as named in the source program. The name is kept verbatim, with the
blanks around it. -/
structure Class where
  name : String
  deriving DecidableEq, Repr

instance : Render Class := ⟨fun c => "class " ++ c.name⟩

/-- The referent of a reference, its default payload. -/
inductive Pointee where
  | label (l : Label)
  | object (c : Class)
  deriving DecidableEq, Repr

namespace Pointee

/-- The label, if the referent is one of a builtin reference. -/
def label? : Pointee → Option Label
  | .label l => some l
  | .object _ => none

/-- The class, if the referent is one. -/
def class? : Pointee → Option Class
  | .label _ => none
  | .object c => some c

end Pointee

instance : Render Pointee where
  render
    | .label l => render l
    | .object c => render c

end TypeLattice
