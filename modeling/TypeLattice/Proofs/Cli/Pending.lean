import TypeLattice.Proofs.Cli.Verbosity

/-!
# When a value is looked at

The value of `--color` may wait until the next option is read or the words end. It makes no
difference to what is read in the end: a value that is accepted might as well have been looked at
at once, and one that is refused stays refused whatever comes behind it.

Results:

* `run_of_settle`: an accepted value might have been looked at before the remaining words;
* `IsStuck.run_ne_ok`: behind a refused value no words are taken;
* `exists_value_of_awaited`: what stands behind an option that awaits its value.
-/
namespace TypeLattice.Cli.Reading

variable {scope : Scope} {r s : Reading}

/-- Takes the words that are left and looks at the last value. -/
def run (scope : Scope) (r : Reading) (words : List String) : Except Halt Reading := do
  (← words.foldlM (takeWord scope) r).settle

theorem run_nil : run scope r [] = r.settle := rfl

theorem run_cons_of_ok {word : String} (h : r.takeWord scope word = .ok s) (words : List String) :
    run scope r (word :: words) = run scope s words := by
  rw [run, List.foldlM_cons, h]
  rfl

theorem run_cons_eq_ok {word : String} {words : List String}
    (h : run scope r (word :: words) = .ok s) :
    ∃ t, r.takeWord scope word = .ok t ∧ run scope t words = .ok s := by
  cases ht : r.takeWord scope word with
  | error e =>
    rw [run, List.foldlM_cons, ht] at h
    cases h
  | ok t =>
    rw [run_cons_of_ok ht] at h
    exact ⟨t, rfl, h⟩

/-! ## Looking at a value -/

theorem settle_eq_ok_iff : r.settle = .ok s ↔
    (r.pending = .nothing ∧ s = r) ∨
      ∃ value w, r.pending = .given value ∧ r.color = none ∧ ColorWhen.ofName? value = some w ∧
        s = { r with color := some w, pending := .nothing } := by
  unfold settle
  cases hp : r.pending with
  | nothing => simp [eq_comm]
  | awaited => simp
  | given value =>
    cases hc : r.color with
    | some w => simp
    | none => cases hw : ColorWhen.ofName? value <;> simp [hw, eq_comm]

/-- Names and the separator do not matter. -/
theorem settle_update (h : r.settle = .ok s) (names : List String) (literal : Bool) :
    ({ r with names, literal } : Reading).settle = .ok { s with names, literal } := by
  rw [settle_eq_ok_iff]
  rcases settle_eq_ok_iff.1 h with ⟨hp, rfl⟩ | ⟨value, w, hp, hc, hw, rfl⟩
  · exact .inl ⟨hp, rfl⟩
  · exact .inr ⟨value, w, hp, hc, hw, rfl⟩

theorem exists_settle_of_update {names : List String} {literal : Bool}
    (h : ({ r with names, literal } : Reading).settle = .ok s) : ∃ t, r.settle = .ok t := by
  rcases settle_eq_ok_iff.1 h with ⟨hp, -⟩ | ⟨value, w, hp, hc, hw, -⟩
  · exact ⟨_, settle_eq_ok_iff.2 (.inl ⟨hp, rfl⟩)⟩
  · exact ⟨_, settle_eq_ok_iff.2 (.inr ⟨value, w, hp, hc, hw, rfl⟩)⟩

theorem pending_of_settle (h : r.settle = .ok s) : s.pending = .nothing := by
  rcases settle_eq_ok_iff.1 h with ⟨hp, rfl⟩ | ⟨value, w, -, -, -, rfl⟩
  · exact hp
  · rfl

theorem settle_of_settle (h : r.settle = .ok s) : s.settle = .ok s :=
  settle_eq_ok_iff.2 (.inl ⟨pending_of_settle h, rfl⟩)

theorem names_and_literal_of_settle (h : r.settle = .ok s) :
    s.names = r.names ∧ s.literal = r.literal := by
  rcases settle_eq_ok_iff.1 h with ⟨-, rfl⟩ | ⟨value, w, -, -, -, rfl⟩ <;> exact ⟨rfl, rfl⟩

/-! ## Accepted values -/

theorem takeLong_of_settle (h : r.settle = .ok s) (option : Switch) (value : Option String) :
    r.takeLong option value = s.takeLong option value := by
  have hs := settle_of_settle h
  cases option <;> cases value <;> simp only [takeLong, h, hs]

theorem takeLetter_of_settle (h : r.settle = .ok s) (c : Char) :
    takeLetter scope r c = takeLetter scope s c := by
  simp only [takeLetter, h, settle_of_settle h]

theorem takeItself_of_settle (h : r.settle = .ok s) (word : String) :
    r.takeItself scope word = s.takeItself scope word ∨
      ∃ r' s', r.takeItself scope word = .ok r' ∧ s.takeItself scope word = .ok s' ∧
        r'.settle = .ok s' := by
  cases scope with
  | program => exact .inl rfl
  | types => exact .inl rfl
  | size =>
    refine .inr ⟨_, _, rfl, rfl, ?_⟩
    obtain ⟨hn, hl⟩ := names_and_literal_of_settle h
    rw [hn, hl]
    exact settle_update h (r.names ++ [word]) r.literal

/-- A word does the same before and after the value was looked at, up to looking at it. -/
theorem takeWord_of_settle (scope : Scope) (h : r.settle = .ok s) (word : String) :
    r.takeWord scope word = s.takeWord scope word ∨
      ∃ r' s', r.takeWord scope word = .ok r' ∧ s.takeWord scope word = .ok s' ∧
        r'.settle = .ok s' := by
  obtain ⟨hn, hl⟩ := names_and_literal_of_settle h
  unfold takeWord
  rw [hl]
  split
  · exact takeItself_of_settle h word
  · cases Word.ofString word with
    | separator =>
      refine .inr ⟨_, _, rfl, rfl, ?_⟩
      rw [hn]
      exact settle_update h r.names true
    | long name value =>
      left
      dsimp only
      split
      · exact takeLong_of_settle h _ value
      · rfl
    | cluster letters =>
      cases letters with
      | nil => exact .inr ⟨r, s, rfl, rfl, h⟩
      | cons c letters =>
        left
        simp only [List.foldlM_cons, takeLetter_of_settle h c]
    | plain text =>
      have hs : s.takePlain scope text = s.takeItself scope text := by
        simp only [takePlain, pending_of_settle h]
      have hr : r.takePlain scope text = r.takeItself scope text := by
        rcases settle_eq_ok_iff.1 h with ⟨hp, -⟩ | ⟨value, w, hp, -⟩ <;> simp only [takePlain, hp]
      simp only [hs, hr]
      exact takeItself_of_settle h text

/-- A value that is accepted might have been looked at before the remaining words. -/
theorem run_of_settle (h : r.settle = .ok s) (words : List String) :
    run scope r words = run scope s words := by
  induction words generalizing r s with
  | nil => rw [run_nil, run_nil, h, settle_of_settle h]
  | cons word words ih =>
    rcases takeWord_of_settle scope h word with heq | ⟨r', s', hr, hs, h'⟩
    · rw [run, run, List.foldlM_cons, List.foldlM_cons, heq]
    · rw [run_cons_of_ok hr, run_cons_of_ok hs, ih h']

/-! ## Refused values -/

/-- The value that waits is refused, or there will be none. -/
structure IsStuck (r : Reading) : Prop where
  refused : ∀ s, r.settle ≠ .ok s
  ended : r.pending = .awaited → r.literal = true

theorem IsStuck.update (h : r.IsStuck) {names : List String} {literal : Bool}
    (hl : r.literal = true → literal = true) : ({ r with names, literal } : Reading).IsStuck := by
  refine ⟨fun s hs => ?_, fun hp => hl (h.ended hp)⟩
  obtain ⟨t, ht⟩ := exists_settle_of_update hs
  exact h.refused t ht

theorem IsStuck.takeItself (h : r.IsStuck) {word : String} (ht : r.takeItself scope word = .ok s) :
    s.IsStuck := by
  cases scope with
  | program => cases ht
  | types => cases ht
  | size =>
    cases ht
    exact h.update id

/-- An option looks at the value first. -/
theorem takeLong_ne_ok (h : ∀ s, r.settle ≠ .ok s) (option : Switch) (value : Option String) :
    r.takeLong option value ≠ .ok s := by
  intro ht
  cases hr : r.settle with
  | ok t => exact h t hr
  | error e => cases option <;> cases value <;> simp [takeLong, hr, bind, Except.bind] at ht

theorem takeLetter_ne_ok (h : ∀ s, r.settle ≠ .ok s) (c : Char) : takeLetter scope r c ≠ .ok s := by
  intro ht
  cases hr : r.settle with
  | ok t => exact h t hr
  | error e =>
    unfold takeLetter at ht
    split at ht <;> simp [hr, bind, Except.bind] at ht

theorem foldlM_takeLetter_ne_ok (h : ∀ s, r.settle ≠ .ok s) {letters : List Char}
    (hne : letters ≠ []) : letters.foldlM (takeLetter scope) r ≠ .ok s := by
  cases letters with
  | nil => exact absurd rfl hne
  | cons c letters =>
    intro ht
    rw [List.foldlM_cons] at ht
    cases hc : takeLetter scope r c with
    | ok t => exact takeLetter_ne_ok h c hc
    | error e => simp [hc, bind, Except.bind] at ht

theorem IsStuck.takeWord (h : r.IsStuck) {word : String} (ht : r.takeWord scope word = .ok s) :
    s.IsStuck := by
  unfold Reading.takeWord at ht
  split at ht
  · exact h.takeItself ht
  · rename_i hl
    cases hw : Word.ofString word with
    | separator =>
      rw [hw] at ht
      cases ht
      exact h.update fun _ => rfl
    | long name value =>
      simp only [hw] at ht
      split at ht
      · exact absurd ht (takeLong_ne_ok h.refused _ value)
      · cases ht
    | cluster letters =>
      have hne : letters ≠ [] := by
        rintro rfl
        exact Word.ofString_ne_cluster_nil word hw
      rw [hw] at ht
      exact absurd ht (foldlM_takeLetter_ne_ok h.refused hne)
    | plain text =>
      simp only [hw, takePlain] at ht
      split at ht
      · rename_i hp
        exact absurd (h.ended hp) hl
      · exact h.takeItself ht

/-- Behind a refused value no words are taken. -/
theorem IsStuck.run_ne_ok (h : r.IsStuck) (words : List String) : run scope r words ≠ .ok s := by
  induction words generalizing r with
  | nil => exact h.refused s
  | cons word words ih =>
    intro hr
    obtain ⟨t, ht, hrun⟩ := run_cons_eq_ok hr
    exact ih (h.takeWord ht) hrun

/-! ## Awaited values -/

/-- An option that awaits its value takes a plain word, and nothing else helps it. -/
theorem plain_or_isStuck_of_awaited {word : String} (hp : r.pending = .awaited)
    (hl : r.literal = false) (h : r.takeWord scope word = .ok s) :
    (Word.ofString word = .plain word ∧ s = { r with pending := .given word }) ∨ s.IsStuck := by
  have hrefused : ∀ s, r.settle ≠ .ok s := by simp [settle, hp]
  have hword := Word.text_ofString word
  unfold takeWord at h
  rw [if_neg (by simp [hl])] at h
  cases hw : Word.ofString word with
  | separator =>
    rw [hw] at h
    cases h
    refine .inr ⟨fun s hs => ?_, fun _ => rfl⟩
    have hsettle : ∃ t, r.settle = .ok t := exists_settle_of_update hs
    obtain ⟨t, ht⟩ := hsettle
    exact hrefused t ht
  | long name value =>
    simp only [hw] at h
    split at h
    · exact absurd h (takeLong_ne_ok hrefused _ value)
    · cases h
  | cluster letters =>
    have hne : letters ≠ [] := by
      rintro rfl
      exact Word.ofString_ne_cluster_nil word hw
    rw [hw] at h
    exact absurd h (foldlM_takeLetter_ne_ok hrefused hne)
  | plain text =>
    rw [hw] at hword
    cases hword
    simp only [hw, takePlain, hp] at h
    cases h
    exact .inl ⟨rfl, rfl⟩

/-- Behind an option that awaits its value stands a colour, and no other was given before. -/
theorem exists_value_of_awaited {words : List String} (hp : r.pending = .awaited)
    (hl : r.literal = false) (h : run scope r words = .ok s) :
    ∃ value w rest, words = value :: rest ∧ ColorWhen.ofName? value = some w ∧ r.color = none ∧
      run scope { r with color := some w, pending := .nothing } rest = .ok s := by
  cases words with
  | nil => simp [run_nil, settle, hp] at h
  | cons value rest =>
    obtain ⟨t, ht, hrun⟩ := run_cons_eq_ok h
    rcases plain_or_isStuck_of_awaited hp hl ht with ⟨-, rfl⟩ | hstuck
    · -- the colour is looked at before the rest, or it is refused
      cases hs : ({ r with pending := .given value } : Reading).settle with
      | ok u =>
        rw [run_of_settle hs] at hrun
        rcases settle_eq_ok_iff.1 hs with ⟨hn, -⟩ | ⟨value', w, hg, hc, hw, rfl⟩
        · cases hn
        · cases hg
          exact ⟨value, w, rest, rfl, hw, hc, hrun⟩
      | error e =>
        have hstuck : ({ r with pending := .given value } : Reading).IsStuck := by
          refine ⟨by simp [hs], fun hawaited => ?_⟩
          cases hawaited
        exact absurd hrun (hstuck.run_ne_ok rest)
    · exact absurd hrun (hstuck.run_ne_ok rest)

end TypeLattice.Cli.Reading
