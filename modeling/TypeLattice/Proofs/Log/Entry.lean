import TypeLattice.Log.Record
import TypeLattice.Proofs.Text.Quoting

/-!
# What an entry keeps of its record

An entry is a record's text without what a terminal takes as commands. A front without control
characters stays whatever follows it, so only what stands behind the first control character of a
message can be missing.

Results:

* `withoutSequences_append`: a front that is shown stays, and takes nothing from what follows;
* `text_append`: an entry begins with its head and the part of the message before the first
  control character.
-/
namespace TypeLattice

namespace Text

theorem isShown_of_not_isControl {c : Char} (h : isControl c = false) : isShown c = true := by
  have hspace : ' ' ≤ c ↔ 0x20 ≤ c.toNat := Iff.rfl
  have htilde : c ≤ '~' ↔ c.toNat ≤ 0x7E := Iff.rfl
  simp only [isControl, Bool.or_eq_false_iff, decide_eq_false_iff_not, Bool.and_eq_false_iff] at h
  simp only [isShown, isWide, Bool.or_eq_true, Bool.and_eq_true, decide_eq_true_eq, hspace, htilde]
  omega

namespace Progress

/-- Outside of a sequence it makes no difference how the last one ended. -/
theorem step_of_none {p q : Progress} (hp : p.sequence = .none) (hq : q.sequence = .none)
    (c : Char) : p.step c = q.step c := by
  simp only [step, hp, hq, true_or]

theorem rest_of_none {p q : Progress} (hp : p.sequence = .none) (hq : q.sequence = .none)
    (s : List Char) : p.rest s = q.rest s := by
  cases s with
  | nil => rfl
  | cons c s => rw [rest, rest, step_of_none hp hq]

theorem rest_append_of_shown {p : Progress} (hp : p.sequence = .none) {s : List Char}
    (hs : ∀ c ∈ s, isShown c = true) (t : List Char) : p.rest (s ++ t) = s ++ p.rest t := by
  induction s generalizing p with
  | nil => rfl
  | cons c s ih =>
    rw [List.cons_append, rest, step_of_shown hp (hs c List.mem_cons_self),
      ih rfl fun d hd => hs d (List.mem_cons_of_mem c hd)]
    exact congrArg (c :: s ++ ·) (rest_of_none rfl hp t)

end Progress

theorem all_isShown {s : String} (hs : s.toList.any isControl = false) :
    s.toList.all isShown = true := by
  rw [List.all_eq_true]
  intro c hc
  have hcontrol := List.any_eq_false.1 hs c hc
  exact isShown_of_not_isControl (by simpa using hcontrol)

theorem withoutSequences_append {s : String} (hs : s.toList.any isControl = false) (t : String) :
    withoutSequences (s ++ t) = s ++ withoutSequences t := by
  have hshown := List.all_eq_true.1 (all_isShown hs)
  rw [withoutSequences, String.toList_append, Progress.rest_append_of_shown rfl hshown,
    String.ofList_append, String.ofList_toList]
  rfl

end Text

namespace Log.Record

theorem indented_append (s t : String) : indented (s ++ t) = indented s ++ indented t := by
  rw [indented, String.toList_append, List.flatMap_append, String.ofList_append]
  rfl

theorem indented_of_not_mem {s : String} (h : '\n' ∉ s.toList) : indented s = s := by
  have hkeep : s.toList.map (fun c => if c = '\n' then '\n' :: List.replicate 4 ' ' else [c]) =
      s.toList.map fun c => [c] := by
    refine List.map_congr_left fun c hc => if_neg ?_
    rintro rfl
    exact h hc
  rw [indented, List.flatMap_def, hkeep, ← List.flatMap_def, List.flatMap_singleton',
    String.ofList_toList]

theorem indented_of_not_isControl {s : String} (hs : s.toList.any Text.isControl = false) :
    indented s = s := by
  refine indented_of_not_mem fun hn => ?_
  exact List.any_eq_false.1 hs '\n' hn rfl

theorem all_isShown_indented {s : String} (h : s.toList.all Text.isShown = true) :
    (indented s).toList.all Text.isShown = true := by
  rw [indented, String.toList_ofList, List.all_flatMap, List.all_eq_true]
  intro c hc
  split
  · rfl
  · simpa using List.all_eq_true.1 h c hc

/-- What an entry says before the message. -/
def head (r : Record) : String := "[" ++ r.level.label ++ " " ++ r.target ++ "] "

theorem any_isControl_head {r : Record} (h : r.target.toList.any Text.isControl = false) :
    r.head.toList.any Text.isControl = false := by
  have hlabel : r.level.label.toList.any Text.isControl = false := by
    cases r.level <;> rfl
  have hopen : "[".toList.any Text.isControl = false := rfl
  have hspace : " ".toList.any Text.isControl = false := rfl
  have hclose : "] ".toList.any Text.isControl = false := rfl
  simp only [head, String.toList_append, List.any_append, hopen, hlabel, hspace, h, hclose,
    Bool.or_self]

/-- An entry begins with its head and the part of the message before the first control
character. -/
theorem text_append {r : Record} {s t : String} (hm : r.message = s ++ t)
    (hs : s.toList.any Text.isControl = false) (ht : r.target.toList.any Text.isControl = false) :
    r.text = r.head ++ s ++ Text.withoutSequences (indented t ++ "\n") := by
  have hfront : (r.head ++ s).toList.any Text.isControl = false := by
    rw [String.toList_append, List.any_append, any_isControl_head ht, hs]
    rfl
  rw [← Text.withoutSequences_append hfront, text, hm, indented_append,
    indented_of_not_isControl hs, head]
  simp only [String.append_assoc]

end Log.Record

end TypeLattice
