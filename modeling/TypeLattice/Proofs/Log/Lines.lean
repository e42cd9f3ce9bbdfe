import TypeLattice.Log.Setting

/-!
# The lines of the log

The entry of a record opens with a bracket and goes on, after a line feed of the message, with
the spaces of the indentation. Control sequences of the message cannot undo that: a line feed
that is shown interrupts the sequence, so the space behind it is shown as well. So no line of
the log can be taken for a line of anything else.

Results:

* `resumes_text`: every line of an entry after the first begins with a space;
* `not_hasLine_text`: a log without complaints about its setting has no line that begins with
  another character than a bracket or a space;
* `endsLine_text`: an entry ends its last line, unless the message holds an escape character;
* `endsLine_setting_text`: a log ends its last line just if the last of its entries does.
-/
namespace TypeLattice.Log

open Text (Progress isShown isWide isLayout)

/-- Every line after the first begins with a character of that sort, or is empty at the end. -/
inductive Resumes (p : Char → Bool) : List Char → Prop
  | nil : Resumes p []
  | cons {c : Char} {s : List Char} :
    (c = '\n' → s.head?.all p = true) → Resumes p s → Resumes p (c :: s)

/-- A line of the text begins in that way. -/
def HasLine (start s : List Char) : Prop := start <+: s ∨ '\n' :: start <:+: s

instance (start s : List Char) : Decidable (HasLine start s) :=
  inferInstanceAs (Decidable (_ ∨ _))

/-- The text is empty or ends with a line feed. -/
def EndsLine (s : List Char) : Prop := s = [] ∨ ∃ t, s = t ++ ['\n']

/-! ## Lines of texts -/

theorem resumes_append {p : Char → Bool} {s t : List Char} (hs : Resumes p s) (ht : Resumes p t)
    (hh : t.head?.all p = true) : Resumes p (s ++ t) := by
  induction hs with
  | nil => exact ht
  | @cons c s hc _ ih =>
    refine .cons (fun hn => ?_) ih
    cases s with
    | nil => exact hh
    | cons d s => exact hc hn

theorem Resumes.mono {p q : Char → Bool} (hpq : ∀ c, p c = true → q c = true) {s : List Char}
    (h : Resumes p s) : Resumes q s := by
  induction h with
  | nil => exact .nil
  | @cons c s hc _ ih =>
    refine .cons (fun hn => ?_) ih
    have := hc hn
    cases s with
    | nil => rfl
    | cons d s => exact hpq d this

theorem not_hasLine_of_resumes {p : Char → Bool} {s : List Char} (h : Resumes p s)
    (hh : s.head?.all p = true) {c : Char} (hc : p c = false) (start : List Char) :
    ¬HasLine (c :: start) s := by
  rintro (⟨t, rfl⟩ | ⟨front, back, rfl⟩)
  · simp [hc] at hh
  · clear hh
    induction front with
    | nil =>
      obtain _ | ⟨hn, -⟩ := h
      simp [hc] at hn
    | cons d front ih =>
      obtain _ | ⟨-, h⟩ := h
      exact ih h

/-- Whether a text ends its last line is seen at its last part, unless that is empty. -/
theorem endsLine_append_iff {s t : List Char} (ht : t ≠ []) : EndsLine (s ++ t) ↔ EndsLine t := by
  constructor
  · rintro (h | ⟨u, h⟩)
    · exact absurd (List.append_eq_nil_iff.1 h).2 ht
    · obtain ⟨v, c, rfl⟩ := (List.eq_nil_or_concat t).resolve_left ht
      rw [List.concat_eq_append, ← List.append_assoc] at h
      obtain ⟨-, hc⟩ := List.append_inj' h rfl
      exact .inr ⟨v, by rw [List.concat_eq_append, hc]⟩
  · rintro (h | ⟨u, rfl⟩)
    · exact absurd h ht
    · exact .inr ⟨s ++ u, (List.append_assoc ..).symm⟩

theorem endsLine_flatten {texts : List (List Char)} (h : ∀ t ∈ texts, EndsLine t) :
    EndsLine texts.flatten := by
  induction texts with
  | nil => exact .inl rfl
  | cons t texts ih =>
    rw [List.flatten_cons]
    have hrest : EndsLine texts.flatten := ih fun u hu => h u (List.mem_cons_of_mem t hu)
    rcases Decidable.em (texts.flatten = []) with hnil | hnil
    · rw [hnil, List.append_nil]
      exact h t List.mem_cons_self
    · exact (endsLine_append_iff hnil).2 hrest

/-! ## What is shown of a text -/

theorem shown_step (p : Progress) (c : Char) :
    (p.step c).2 = [] ∨ (p.step c).2 = [c] := by
  unfold Progress.step
  repeat' split
  all_goals simp

/-- A line feed that is shown interrupts the sequence that it stands in. -/
theorem interrupted_of_shown_newline {p : Progress} (h : (p.step '\n').2 ≠ []) :
    (p.step '\n').1.interrupted = true := by
  have hs : isShown '\n' = true := rfl
  have hw : isWide '\n' = false := rfl
  have hl : isLayout '\n' = true := rfl
  simp only [Progress.step, hs, hw, hl, true_and, Char.reduceEq, if_false, or_self,
    Bool.false_eq_true] at h ⊢
  split
  · rfl
  · split
    · rfl
    · simp_all

theorem step_space_of_interrupted {p : Progress} (h : p.interrupted = true) :
    (p.step ' ').2 = [' '] := by
  have hs : isShown ' ' = true := rfl
  simp [Progress.step, hs, h]

theorem resumes_rest_cons {q : Char → Bool} {p : Progress} {c : Char} (hc : c ≠ '\n')
    {s : List Char} (h : Resumes q ((p.step c).1.rest s)) : Resumes q (p.rest (c :: s)) := by
  rw [Progress.rest]
  rcases shown_step p c with hs | hs <;> rw [hs]
  · exact h
  · exact .cons (fun he => absurd he hc) h

theorem resumes_rest_append {q : Char → Bool} {front s : List Char} (hf : '\n' ∉ front)
    (h : ∀ p : Progress, Resumes q (p.rest s)) :
    ∀ p : Progress, Resumes q (p.rest (front ++ s)) := by
  induction front with
  | nil => exact h
  | cons c front ih =>
    simp only [List.mem_cons, not_or] at hf
    exact fun p => resumes_rest_cons (Ne.symm hf.1) (ih hf.2 _)

/-- What is shown of a line feed with spaces behind it begins with both or with neither. -/
theorem resumes_rest_newline {n : Nat} {s : List Char}
    (h : ∀ p : Progress, Resumes (· = ' ') (p.rest s)) (p : Progress) :
    Resumes (· = ' ') (p.rest ('\n' :: (List.replicate (n + 1) ' ' ++ s))) := by
  have hspaces : '\n' ∉ List.replicate (n + 1) ' ' := by simp
  have hrest := resumes_rest_append hspaces h (p.step '\n').1
  rw [Progress.rest]
  rcases shown_step p '\n' with hs | hs <;> rw [hs]
  · exact hrest
  · have hi := interrupted_of_shown_newline (p := p) (by rw [hs]; simp)
    refine .cons (fun _ => ?_) hrest
    show ((p.step '\n').1.rest (' ' :: (List.replicate n ' ' ++ s))).head?.all _ = true
    rw [Progress.rest, step_space_of_interrupted hi]
    rfl

theorem sequence_step {p : Progress} (hp : p.sequence = .none) {c : Char} (hc : c ≠ '\x1B') :
    (p.step c).1.sequence = .none := by
  unfold Progress.step
  repeat' split
  all_goals simp_all [Text.Sequence.next, Text.Sequence.nextWide]

/-- Without an escape character nothing takes the line feed at the end away. -/
theorem exists_rest_eq_append_newline {p : Progress} (hp : p.sequence = .none) {s : List Char}
    (hs : '\x1B' ∉ s) : ∃ t, p.rest (s ++ ['\n']) = t ++ ['\n'] := by
  induction s generalizing p with
  | nil =>
    have hn : isShown '\n' = true := rfl
    exact ⟨[], by simp [Progress.rest, Progress.step, hn, hp]⟩
  | cons c s ih =>
    simp only [List.mem_cons, not_or] at hs
    obtain ⟨t, ht⟩ := ih (sequence_step hp (Ne.symm hs.1)) hs.2
    exact ⟨(p.step c).2 ++ t, by rw [List.cons_append, Progress.rest, ht, List.append_assoc]⟩

/-! ## Entries -/

theorem toList_text (r : Record) : r.text.toList = ({} : Progress).rest
    ('[' :: ((r.level.label ++ " " ++ r.target ++ "] ").toList ++
      (r.message.toList.flatMap (fun c => if c = '\n' then '\n' :: List.replicate 4 ' ' else [c]) ++
        ['\n']))) := by
  simp [Record.text, Text.withoutSequences, Record.indented]

/-- An entry begins with its bracket. -/
theorem head?_text (r : Record) : r.text.toList.head? = some '[' := by
  rw [toList_text]
  rfl

theorem resumes_text {r : Record} (h : '\n' ∉ r.target.toList) :
    Resumes (· = ' ') r.text.toList := by
  have hlabel : '\n' ∉ r.level.label.toList := by cases r.level <;> decide
  have hmessage : ∀ (s : List Char) (p : Progress), Resumes (· = ' ')
      (p.rest (s.flatMap (fun c => if c = '\n' then '\n' :: List.replicate 4 ' ' else [c]) ++
        ['\n'])) := by
    intro s
    induction s with
    | nil =>
      intro p
      have hnil : Resumes (· = ' ') ((p.step '\n').1.rest []) := .nil
      rw [List.flatMap_nil, List.nil_append, Progress.rest]
      rcases shown_step p '\n' with hs | hs <;> rw [hs]
      · exact hnil
      · exact .cons (fun _ => rfl) hnil
    | cons c s ih =>
      intro p
      rw [List.flatMap_cons, List.append_assoc]
      split
      · exact resumes_rest_newline ih p
      · next hc => exact resumes_rest_cons hc (ih _)
  rw [toList_text, ← List.cons_append]
  refine resumes_rest_append ?_ (hmessage _) _
  simp [hlabel, h]

theorem endsLine_text {r : Record} (ht : '\x1B' ∉ r.target.toList)
    (hm : '\x1B' ∉ r.message.toList) : EndsLine r.text.toList := by
  have hlabel : '\x1B' ∉ r.level.label.toList := by cases r.level <;> decide
  rw [toList_text, ← List.cons_append, ← List.append_assoc]
  refine .inr (exists_rest_eq_append_newline rfl ?_)
  simp only [List.mem_append, List.mem_cons, List.mem_flatMap, String.toList_append, not_or]
  refine ⟨⟨by decide, ⟨⟨hlabel, by decide⟩, ht⟩, by decide⟩, ?_⟩
  rintro ⟨c, hc, hmem⟩
  split at hmem
  · simp at hmem
  · rw [List.mem_singleton.1 hmem] at hm
    exact hm hc

/-! ## Whole logs -/

theorem toList_filter_text (f : Filter) (records : List Record) : (f.text records).toList =
    (records.filter f.shows).flatMap fun r => r.text.toList := by
  simp [Filter.text, List.flatMap_map]

theorem resumes_filter_text (f : Filter) {records : List Record}
    (h : ∀ r ∈ records, '\n' ∉ r.target.toList) :
    Resumes (fun c => c = '[' || c = ' ') (f.text records).toList ∧
      (f.text records).toList.head?.all (fun c => c = '[' || c = ' ') = true := by
  rw [toList_filter_text]
  have hf : ∀ r ∈ records.filter f.shows, '\n' ∉ r.target.toList :=
    fun r hr => h r (List.mem_filter.1 hr).1
  generalize records.filter f.shows = shown at hf
  induction shown with
  | nil => exact ⟨.nil, rfl⟩
  | cons r shown ih =>
    obtain ⟨hrest, hhead⟩ := ih fun r' hr' => hf r' (List.mem_cons_of_mem r hr')
    have hr : Resumes (fun c => c = '[' || c = ' ') r.text.toList :=
      (resumes_text (hf r List.mem_cons_self)).mono fun c hc => by rw [hc, Bool.or_true]
    rw [List.flatMap_cons]
    refine ⟨resumes_append hr hrest hhead, ?_⟩
    rw [List.head?_append, head?_text]
    rfl

/-- A log without complaints about its setting has no line that begins with another character
than a bracket or a space. -/
theorem not_hasLine_text {setting : Setting} (hs : setting.errors = []) {records : List Record}
    (h : ∀ r ∈ records, '\n' ∉ r.target.toList) {c : Char} (hb : c ≠ '[') (hc : c ≠ ' ')
    (start : List Char) : ¬HasLine (c :: start) (setting.text records).toList := by
  have ht : setting.text records = setting.filter.text records := by simp [Setting.text, hs]
  obtain ⟨hr, hh⟩ := resumes_filter_text setting.filter h
  rw [ht]
  exact not_hasLine_of_resumes hr hh (by simp [hb, hc]) start

/-- A log ends its last line just if the last of its entries does. -/
theorem endsLine_setting_text {setting : Setting} {records : List Record} :
    EndsLine (setting.text records).toList ↔
      ∀ r ∈ (records.filter setting.filter.shows).getLast?, EndsLine r.text.toList := by
  rw [Setting.text, String.toList_append, toList_filter_text, String.toList_join]
  generalize records.filter setting.filter.shows = shown
  rcases List.eq_nil_or_concat shown with rfl | ⟨front, r, rfl⟩
  · -- without an entry the complaints come last, and each ends its line
    have hwarnings : EndsLine ((setting.errors.map fun e =>
        "warning: " ++ e.message ++ ", ignoring it\n").flatMap String.toList) := by
      rw [List.flatMap_def]
      refine endsLine_flatten fun t ht => ?_
      simp only [List.map_map, List.mem_map, Function.comp_apply] at ht
      obtain ⟨e, -, rfl⟩ := ht
      exact .inr ⟨("warning: " ++ e.message ++ ", ignoring it").toList, by simp⟩
    simpa using hwarnings
  · have htext : r.text.toList ≠ [] := by
      intro hnil
      have hhead := head?_text r
      rw [hnil] at hhead
      cases hhead
    rw [List.concat_eq_append, List.flatMap_append, List.flatMap_singleton, ← List.append_assoc,
      endsLine_append_iff htext, List.getLast?_concat]
    simp

end TypeLattice.Log
