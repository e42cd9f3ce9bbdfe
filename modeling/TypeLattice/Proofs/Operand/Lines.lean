import TypeLattice.Operand.Listing
import TypeLattice.Proofs.Operand.Text
import TypeLattice.Proofs.Text.LineFeeds

/-!
# Lines of a listing

An operand holds free text in three places: the class that its type refers to, the name of a
symbol, the name of a variable. These are written as they are. All other literals are written
without control characters, whatever they hold, so they cannot break a line of a listing.

Results:

* `Literal.any_isControl_render`: only a symbol is written with control characters;
* `Operand.lineFeeds_render`: the line feeds of an operand are those of its free texts;
* `Listing.lineFeeds_text_eq`: so are those of a listing, beside the ones that end its lines.
-/
namespace TypeLattice

open Text (isControl lineFeeds lineFeeds_append lineFeeds_eq_zero_iff)

/-! ## Free texts -/

/-- The name of the class that the type refers to, if it does. -/
def Ty.freeTexts : Ty Pointee → List String
  | .ref (.object c) => [c.name]
  | .scalar _ | .ref (.label _) => []

/-- The name of a symbol. -/
def Literal.freeTexts : Literal → List String
  | symbol name => [name]
  | bool _ | int _ | float _ | char _ | string _ => []

/-- The texts in an operand that are written as they are. -/
def Operand.freeTexts : Operand Pointee → List String
  | constant ty value => ty.freeTexts ++ value.freeTexts
  | var ty name => name :: ty.freeTexts

/-! ## Control characters -/

theorem Text.isControl_of_isNumeral {c : Char} (h : Binary64.isNumeral c = true) :
    isControl c = false := by
  have hword : "-.eNainf".toList.any isControl = false := rfl
  rw [Binary64.isNumeral, Bool.or_eq_true, List.contains_iff_mem] at h
  rcases h with h | h
  · exact isControl_of_isDigit h
  · simpa using List.any_eq_false.1 hword c h

namespace Literal

/-- Only the name of a symbol is written with the control characters that it holds. -/
theorem any_isControl_render {v : Literal} (h : ∀ name, v ≠ symbol name) :
    (render v).toList.any isControl = false := by
  have number {s : List Char} (hs : s.all Binary64.isNumeral = true) : s.any isControl = false := by
    rw [List.any_eq_false]
    intro c hc
    simp [Text.isControl_of_isNumeral (List.all_eq_true.1 hs c hc)]
  cases v with
  | bool b => cases b <;> rfl
  | int i => exact number (Binary64.all_isNumeral_signedDecimal i.toInt)
  | float x => exact number (Binary64.all_isNumeral_text x)
  | char c => exact Text.any_isControl_quotedChar c
  | string s => exact Text.any_isControl_quotedString s
  | symbol name => exact absurd rfl (h name)

theorem lineFeeds_render (v : Literal) :
    lineFeeds (render v) = lineFeeds (String.join v.freeTexts) := by
  have quiet : (∀ name, v ≠ symbol name) → lineFeeds (render v) = 0 := by
    intro h
    rw [lineFeeds_eq_zero_iff]
    intro hm
    have hc := List.any_eq_false.1 (any_isControl_render h) '\n' hm
    exact hc rfl
  cases v with
  | symbol name =>
    show lineFeeds ("@" ++ name) = _
    rw [lineFeeds_append, freeTexts, Text.lineFeeds_join_cons]
    exact Nat.add_comm _ _
  | bool _ | int _ | float _ | char _ | string _ => exact quiet nofun

end Literal

/-! ## Operands -/

theorem Ty.lineFeeds_render (t : Ty Pointee) :
    lineFeeds (render t) = lineFeeds (String.join t.freeTexts) := by
  rcases t with s | l | c
  · cases s <;> rfl
  · cases l <;> rfl
  · show lineFeeds ("ptr<" ++ ("class " ++ c.name) ++ ">") = lineFeeds (String.join [c.name])
    rw [lineFeeds_append, lineFeeds_append, lineFeeds_append, Text.lineFeeds_join_cons]
    have h1 : lineFeeds "ptr<" = 0 := rfl
    have h2 : lineFeeds "class " = 0 := rfl
    have h3 : lineFeeds ">" = 0 := rfl
    rw [h1, h2, h3, Nat.zero_add, Nat.zero_add]
    rfl

theorem Operand.lineFeeds_render (o : Operand Pointee) :
    lineFeeds (render o) = lineFeeds (String.join o.freeTexts) := by
  cases o with
  | constant ty value =>
    show lineFeeds (render ty ++ " " ++ render value) = _
    have hs : lineFeeds " " = 0 := rfl
    rw [lineFeeds_append, lineFeeds_append, hs, Ty.lineFeeds_render, Literal.lineFeeds_render,
      freeTexts, String.join_append, lineFeeds_append, Nat.add_zero]
  | var ty name =>
    show lineFeeds ("%" ++ name ++ ": " ++ render ty) = _
    have h1 : lineFeeds "%" = 0 := rfl
    have h2 : lineFeeds ": " = 0 := rfl
    rw [lineFeeds_append, lineFeeds_append, lineFeeds_append, h1, h2, Ty.lineFeeds_render,
      freeTexts, Text.lineFeeds_join_cons, Nat.zero_add, Nat.add_zero]

/-! ## Listings -/

namespace Listing

theorem text_eq_ofLines (l : Listing) : l.text = Text.ofLines (l.map render) := by
  rw [text, Text.ofLines, List.map_map]
  rfl

theorem lineFeeds_join_render (l : Listing) : lineFeeds (String.join (l.map render)) =
    lineFeeds (String.join (l.flatMap Operand.freeTexts)) := by
  rw [Text.join_flatMap]
  exact Text.lineFeeds_join_congr Operand.lineFeeds_render l

theorem lineFeeds_text_eq (l : Listing) : lineFeeds l.text =
    l.length + lineFeeds (String.join (l.flatMap Operand.freeTexts)) := by
  rw [text_eq_ofLines, Text.lineFeeds_ofLines, List.length_map, lineFeeds_join_render]

/-- A listing has a line feed for each operand and those in the names of classes, symbols and
variables, and no others: characters and strings are written without control characters,
whatever they hold. So its lines are the texts of its operands just if none of these names holds
a line feed. -/
theorem lineFeeds_text_and_lines (l : Listing) :
    lineFeeds l.text = l.length + lineFeeds (String.join (l.flatMap Operand.freeTexts)) ∧
    (l.text.toList.splitOn '\n' = (l.map render).map String.toList ++ [[]] ↔
      lineFeeds (String.join (l.flatMap Operand.freeTexts)) = 0) ∧
    (∀ s : String, (render (Literal.string s)).toList.any isControl = false) ∧
    ∀ c : Char, (render (Literal.char c)).toList.any isControl = false := by
  refine ⟨lineFeeds_text_eq l, ?_, fun s => ?_, fun c => ?_⟩
  · rw [text_eq_ofLines, Text.splitOn_ofLines_iff, lineFeeds_join_render]
  · exact Literal.any_isControl_render nofun
  · exact Literal.any_isControl_render nofun

/-- Two line feeds end lines, two are in the names of a symbol and of a class. -/
example : lineFeeds (text [.constant (.scalar .int) (.symbol "f\n"),
    .constant (.toClass "A\n") (.string "\n\u2028\x00")]) = 4 := by decide +kernel

end Listing

end TypeLattice
