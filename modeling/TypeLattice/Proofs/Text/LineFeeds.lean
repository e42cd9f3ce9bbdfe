/-!
# Line feeds

A text that is put together from lines, with a line feed behind each, has those line feeds and
the ones inside its lines. It falls apart into the same lines just if there are none inside.

Results:

* `lineFeeds_ofLines`: how many line feeds a text of lines has;
* `splitOn_ofLines_iff`: when its lines are those that it was put together from.
-/
namespace TypeLattice.Text

/-- The number of line feeds in a text. -/
def lineFeeds (s : String) : Nat := s.toList.count '\n'

/-- The text of the lines, each with a line feed behind it. -/
def ofLines (lines : List String) : String := String.join (lines.map (· ++ "\n"))

/-! ## Counting -/

theorem lineFeeds_append (s t : String) : lineFeeds (s ++ t) = lineFeeds s + lineFeeds t := by
  rw [lineFeeds, String.toList_append, List.count_append]
  rfl

theorem lineFeeds_eq_zero_iff {s : String} : lineFeeds s = 0 ↔ '\n' ∉ s.toList := by
  rw [lineFeeds, List.count_eq_zero]

theorem lineFeeds_join_cons (s : String) (l : List String) :
    lineFeeds (String.join (s :: l)) = lineFeeds s + lineFeeds (String.join l) := by
  rw [String.join_cons, lineFeeds_append]

theorem lineFeeds_join_eq_zero_iff {l : List String} :
    lineFeeds (String.join l) = 0 ↔ ∀ s ∈ l, '\n' ∉ s.toList := by
  rw [lineFeeds_eq_zero_iff, String.toList_join, List.mem_flatMap]
  simp

theorem lineFeeds_join_congr {α : Type} {f g : α → String}
    (h : ∀ x, lineFeeds (f x) = lineFeeds (g x)) (l : List α) :
    lineFeeds (String.join (l.map f)) = lineFeeds (String.join (l.map g)) := by
  induction l with
  | nil => rfl
  | cons x l ih =>
    rw [List.map_cons, List.map_cons, lineFeeds_join_cons, lineFeeds_join_cons, h, ih]

theorem join_flatMap {α : Type} (parts : α → List String) (l : List α) :
    String.join (l.flatMap parts) = String.join (l.map fun x => String.join (parts x)) := by
  induction l with
  | nil => rfl
  | cons x l ih => rw [List.flatMap_cons, List.map_cons, String.join_append, String.join_cons, ih]

theorem lineFeeds_ofLines (lines : List String) :
    lineFeeds (ofLines lines) = lines.length + lineFeeds (String.join lines) := by
  induction lines with
  | nil => rfl
  | cons line lines ih =>
    have hline : lineFeeds (line ++ "\n") = lineFeeds line + 1 := lineFeeds_append line "\n"
    rw [ofLines] at ih ⊢
    rw [List.map_cons, lineFeeds_join_cons, lineFeeds_join_cons, hline, ih, List.length_cons]
    omega

/-! ## Falling apart -/

/-- There is one line more than there are line feeds. -/
theorem length_splitOn (s : List Char) : (s.splitOn '\n').length = s.count '\n' + 1 := by
  induction s with
  | nil => rfl
  | cons c s ih =>
    rw [List.splitOn_cons_eq_if_modifyHead, List.count_cons]
    split
    · rw [List.length_cons, ih]
    · rw [List.length_modifyHead, ih]

theorem splitOn_ofLines {lines : List String} (h : ∀ line ∈ lines, '\n' ∉ line.toList) :
    (ofLines lines).toList.splitOn '\n' = lines.map String.toList ++ [[]] := by
  rw [ofLines, String.toList_join]
  induction lines with
  | nil => rfl
  | cons line lines ih =>
    have hline : (line ++ "\n").toList = line.toList ++ ['\n'] := String.toList_append
    rw [List.map_cons, List.flatMap_cons, hline, List.append_assoc, List.singleton_append,
      List.splitOn_append_cons_self_of_not_mem (h line List.mem_cons_self),
      ih fun l hl => h l (List.mem_cons_of_mem line hl)]
    rfl

theorem splitOn_ofLines_iff {lines : List String} :
    (ofLines lines).toList.splitOn '\n' = lines.map String.toList ++ [[]] ↔
      lineFeeds (String.join lines) = 0 := by
  constructor
  · intro h
    -- a line feed inside would make one line more
    have hlength := congrArg List.length h
    have hcount := lineFeeds_ofLines lines
    rw [length_splitOn, List.length_append, List.length_map, List.length_singleton] at hlength
    rw [lineFeeds] at hcount
    omega
  · intro h
    exact splitOn_ofLines (lineFeeds_join_eq_zero_iff.1 h)

end TypeLattice.Text
