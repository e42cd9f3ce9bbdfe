/-!
# Words of the command line

A word is an option by its long name, a cluster of option letters, the separator after
which no word is an option, or a plain word. A lone hyphen and the empty word are plain.
`Word.ofString` tells which; every word has exactly one form, and the form gives the word back
(`text_ofString`).
-/
namespace TypeLattice.Cli

/-- The form of a word. -/
inductive Word where
  /-- Two hyphens alone. -/
  | separator
  /-- Two hyphens and a name, which ends at the first equals sign; a value follows it. -/
  | long (name : String) (value : Option String)
  /-- One hyphen and letters. -/
  | cluster (letters : List Char)
  | plain (text : String)
  deriving DecidableEq, Repr

namespace Word

/-- The name and the value of a long option, given what follows its two hyphens. -/
def longOfList (body : List Char) : Word :=
  let name := String.ofList (body.takeWhile (· ≠ '='))
  match body.dropWhile (· ≠ '=') with
  | [] => .long name none
  | _ :: value => .long name (some (String.ofList value))

/-- The form of a word. -/
def ofString (word : String) : Word :=
  match word.toList with
  | ['-', '-'] => .separator
  | '-' :: '-' :: body => longOfList body
  | '-' :: c :: letters => .cluster (c :: letters)
  | _ => .plain word

/-- The word of a form. -/
def text : Word → String
  | separator => "--"
  | long name none => "--" ++ name
  | long name (some value) => "--" ++ name ++ "=" ++ value
  | cluster letters => String.ofList ('-' :: letters)
  | plain text => text

theorem toList_text_longOfList (body : List Char) :
    (longOfList body).text.toList = '-' :: '-' :: body := by
  have hbody := List.takeWhile_append_dropWhile (p := (· ≠ '=')) (l := body)
  have hmark := List.head?_dropWhile_not (· ≠ '=') body
  have hopen : "--".toList = ['-', '-'] := rfl
  have hequals : "=".toList = ['='] := rfl
  unfold longOfList
  split
  · rename_i hd
    rw [hd, List.append_nil] at hbody
    rw [text, String.toList_append, hopen, hbody, String.toList_ofList]
    rfl
  · rename_i c value hd
    rw [hd] at hbody hmark
    have hc : c = '=' := by simpa using hmark
    subst hc
    simpa [text, hopen, hequals] using hbody

/-- Nothing of a word is lost in its form. -/
theorem text_ofString (word : String) : (ofString word).text = word := by
  apply String.toList_injective
  unfold ofString
  split
  · rename_i h
    rw [h]
    rfl
  · rename_i body _ h
    rw [h, toList_text_longOfList]
  · rename_i c letters _ _ h
    rw [h, text, String.toList_ofList]
  · rfl

theorem ofString_ne_cluster_nil (word : String) : ofString word ≠ .cluster [] := by
  unfold ofString
  split
  · nofun
  · unfold longOfList
    split <;> nofun
  · nofun
  · nofun

/-- A word that does not begin with a hyphen is plain. -/
theorem ofString_eq_plain {word : String} (h : word.toList.head? ≠ some '-') :
    ofString word = .plain word := by
  unfold ofString
  split <;> simp_all

end Word

end TypeLattice.Cli
