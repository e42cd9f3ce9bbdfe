import Mathlib.Order.Monotone.Basic
import TypeLattice.Cli.Run
import TypeLattice.Proofs.Cli.CommandLine

/-!
# Asking once more for log records

One more option for log records may be put wherever an option may stand, and the command stays the
same. Nearly everywhere the log then shows what it showed before and perhaps more. The one
exception is the first such option behind the command: it takes the place of all those before the
command, so where these were two or more the log shows less.

Results:

* `Takes.insert`: the option is taken in every place of an option, and adds one;
* `Takes.verbosity_eq_zero_iff`: when the words behind a command ask for no more records;
* `Replaces`: the exception;
* `ofWords_one_more`: what one more option does;
* `one_more_shows_less`: the exception at work.
-/
namespace TypeLattice.Cli

/-! ## Words for more log records among others -/

namespace Louder

theorem take_toList_text (m : Louder) :
    m.text.toList.take 2 = ['-', 'v'] ∨ m.text.toList.take 3 = ['-', '-', 'v'] := by
  cases m with
  | named => exact .inr rfl
  | letters more =>
    left
    rw [text, String.toList_ofList]
    rfl

theorem text_ne_of_plain (m : Louder) {word : String} (h : Word.ofString word = .plain word) :
    m.text ≠ word := by
  rintro rfl
  rw [ofString_text] at h
  cases m <;> cases h

theorem text_ne_separator (m : Louder) : m.text ≠ "--" := by
  intro h
  have hword := ofString_text m
  rw [h] at hword
  cases m <;> cases hword

theorem text_injective {m n : Louder} (h : m.text = n.text) : m = n := by
  have hword := ofString_text m
  rw [h, ofString_text n] at hword
  cases m with
  | named =>
    cases n with
    | named => rfl
    | letters k => cases hword
  | letters j =>
    cases n with
    | named => cases hword
    | letters k =>
      have hlength := congrArg List.length (List.cons.inj (Word.cluster.inj hword)).2
      rw [List.length_replicate, List.length_replicate] at hlength
      rw [hlength]

/-- No other option has such a word. -/
theorem text_not_mem_words (m : Louder) {g : OptionGroup} (hg : g.switch ≠ .verbose) :
    m.text ∉ g.words := by
  have hother : ∀ word ∈ g.words,
      ¬(word.toList.take 2 = ['-', 'v'] ∨ word.toList.take 3 = ['-', '-', 'v']) := by
    cases g with
    | louder m => exact absurd rfl hg
    | json | scalars | references => decide
    | color joined w => cases joined <;> cases w <;> decide
  exact fun hm => hother _ hm m.take_toList_text

theorem count_pos (m : Louder) : 0 < m.count := by cases m <;> simp [count]

end Louder

theorem OptionGroup.separator_not_mem_words (g : OptionGroup) : "--" ∉ g.words := by
  cases g with
  | louder m => simpa [words, eq_comm] using m.text_ne_separator
  | json | scalars | references => decide
  | color joined w => cases joined <;> cases w <;> decide

/-- The words of an option can be parted only between `--color` and its value. -/
theorem OptionGroup.words_eq_append {g : OptionGroup} {front back : List String}
    (h : g.words = front ++ back) : front = [] ∨ back = [] ∨ front = ["--color"] := by
  have hlength := congrArg List.length h
  rw [List.length_append] at hlength
  by_cases hw : g.words.length = 1
  · rw [hw] at hlength
    cases front with
    | nil => exact .inl rfl
    | cons word front =>
      rw [List.length_cons] at hlength
      exact .inr (.inl (List.eq_nil_of_length_eq_zero (by omega)))
  · obtain ⟨w, rfl⟩ : ∃ w, g = .color false w := by
      cases g with
      | louder m | json | scalars | references => exact absurd rfl hw
      | color joined w =>
        cases joined with
        | true => exact absurd rfl hw
        | false => exact ⟨w, rfl⟩
    have hlength : 2 = front.length + back.length := hlength
    match front, h with
    | [], _ => exact .inl rfl
    | [word], h =>
      obtain ⟨rfl, -⟩ := List.cons.inj h
      exact .inr (.inr rfl)
    | _ :: _ :: front, _ =>
      simp only [List.length_cons] at hlength
      exact .inr (.inl (List.eq_nil_of_length_eq_zero (by omega)))

/-! ## What the words behind a command ask for -/

/-- The words before the separator, if there is one. -/
def beforeSeparator (words : List String) : List String := words.takeWhile (· ≠ "--")

namespace Reading

variable {scope : Scope} {r s : Reading}

theorem verbosity_addTo {g : OptionGroup} (hg : g.switch ≠ .verbose) (r : Reading) :
    (g.addTo r).verbosity = r.verbosity := by
  cases g with
  | louder m => exact absurd rfl hg
  | json | scalars | references | color joined w => rfl

theorem louder_verbosity_ne_zero (r : Reading) (m : Louder) : (r.louder m.count).verbosity ≠ 0 := by
  have hpos := m.count_pos
  simp only [louder, mostVerbose]
  omega

theorem Takes.verbosity_le {words : List String} (h : Takes scope r words s)
    (hr : r.verbosity ≤ 255) : s.verbosity ≤ 255 := by
  induction h with
  | done r => exact hr
  | separator r names h => exact hr
  | option g known new rest ih =>
    refine ih ?_
    cases g with
    | louder m => exact Nat.min_le_left ..
    | json | scalars | references | color joined w => exact hr
  | name name h plain rest ih => exact ih hr

/-- The words behind a command ask for no more records just if no option for them is there. -/
theorem Takes.verbosity_eq_zero_iff {words : List String} (h : Takes scope r words s) :
    s.verbosity = 0 ↔ r.verbosity = 0 ∧ ∀ m : Louder, m.text ∉ beforeSeparator words := by
  induction h with
  | done r => simp [beforeSeparator]
  | separator r names h => simp [beforeSeparator]
  | @option r s words g known new rest ih =>
    have hwords : beforeSeparator (g.words ++ words) = g.words ++ beforeSeparator words := by
      refine List.takeWhile_append_of_pos fun word hm => ?_
      rw [decide_eq_true_eq]
      rintro rfl
      exact g.separator_not_mem_words hm
    rw [ih, hwords]
    simp only [List.mem_append, not_or]
    by_cases hg : g.switch = .verbose
    · obtain ⟨m, rfl⟩ : ∃ m, g = .louder m := by
        cases g <;> first | exact ⟨_, rfl⟩ | cases hg
      have hmem : m.text ∈ (OptionGroup.louder m).words := List.mem_singleton_self _
      constructor
      · rintro ⟨hr, -⟩
        exact absurd hr (louder_verbosity_ne_zero r m)
      · rintro ⟨-, hall⟩
        exact absurd hmem (hall m).1
    · rw [verbosity_addTo hg]
      simp [Louder.text_not_mem_words _ hg]
  | @name r s words name h plain rest ih =>
    have hname : name ≠ "--" := by
      rintro rfl
      cases plain
    have hwords : beforeSeparator (name :: words) = name :: beforeSeparator words := by
      simp [beforeSeparator, hname]
    rw [ih, hwords]
    simp only [List.mem_cons, not_or, Louder.text_ne_of_plain _ plain, not_false_eq_true, true_and]

/-! ## One more option -/

theorem addTo_louder_comm (g : OptionGroup) (n : Nat) (r : Reading) :
    g.addTo (r.louder n) = (g.addTo r).louder n := by
  cases g with
  | louder m =>
    rw [OptionGroup.addTo, OptionGroup.addTo, louder_louder, louder_louder, Nat.add_comm]
  | json | scalars | references | color joined w => rfl

/-- Nothing that is read depends on how many more records were asked for before. -/
theorem Takes.louder {words : List String} (h : Takes scope r words s) (n : Nat) :
    Takes scope (r.louder n) words (s.louder n) := by
  induction h with
  | done r => exact .done _
  | separator r names h => exact .separator _ names h
  | @option r s words g known new rest ih =>
    refine .option g known ?_ ?_
    · cases g <;> exact new
    · rwa [addTo_louder_comm]
  | name name h plain rest ih => exact .name name h plain ih

/-- Behind these words an option may stand: the options are not ended, and none of them waits for
its value. -/
structure IsOptionPlace (front : List String) : Prop where
  noSeparator : "--" ∉ front
  noColor : front.getLast? ≠ some "--color"

theorem IsOptionPlace.of_append {front front' : List String} (h : IsOptionPlace (front ++ front')) :
    IsOptionPlace front' := by
  refine ⟨fun hm => h.noSeparator (List.mem_append_right front hm), fun hlast => h.noColor ?_⟩
  rw [List.getLast?_append, hlast]
  rfl

theorem Takes.cons_louder {words : List String} (h : Takes scope r words s) :
    Takes scope r ("-v" :: words) (s.louder 1) :=
  .option (.louder (.letters 0)) (by cases scope <;> rfl) rfl (h.louder 1)

/-- The option is taken in every place of an option. -/
theorem Takes.insert {words front back : List String} (h : Takes scope r words s)
    (hwords : words = front ++ back) (hp : IsOptionPlace front) :
    Takes scope r (front ++ "-v" :: back) (s.louder 1) := by
  induction h generalizing front with
  | done r =>
    obtain ⟨rfl, rfl⟩ := List.append_eq_nil_iff.1 hwords.symm
    exact cons_louder (.done r)
  | separator r names h =>
    cases front with
    | nil =>
      subst hwords
      exact cons_louder (.separator r names h)
    | cons word front =>
      obtain ⟨rfl, -⟩ := List.cons.inj hwords
      exact absurd List.mem_cons_self hp.noSeparator
  | option g known new rest ih =>
    rcases List.append_eq_append_iff.1 hwords with ⟨front', rfl, hrest⟩ | ⟨back', hg, rfl⟩
    · rw [List.append_assoc]
      exact .option g known new (ih hrest hp.of_append)
    · rcases OptionGroup.words_eq_append hg with rfl | rfl | rfl
      · rw [List.nil_append] at hg
        subst hg
        exact cons_louder (.option g known new rest)
      · rw [List.append_nil] at hg
        subst hg
        exact .option g known new (cons_louder rest)
      · exact absurd rfl hp.noColor
  | name name h plain rest ih =>
    cases front with
    | nil =>
      subst hwords
      exact cons_louder (.name name h plain rest)
    | cons word front =>
      obtain ⟨rfl, hrest⟩ := List.cons.inj hwords
      have hp' : IsOptionPlace ([name] ++ front) := hp
      exact .name name h plain (ih hrest hp'.of_append)

end Reading

/-! ## One more option on a command line -/

theorem Verb.command_louder (v : Verb) (n : Nat) (r : Reading) :
    v.command (r.louder n) = v.command r := by
  cases v <;> rfl

theorem Louder.total_insert (before before' : List Louder) :
    total (before ++ .letters 0 :: before') = total (before ++ before') + 1 := by
  induction before with
  | nil => exact Nat.add_comm ..
  | cons m before ih =>
    rw [List.cons_append, List.cons_append, total, total, ih, Nat.add_assoc]

theorem Louder.text_ne_word (m : Louder) (v : Verb) : m.text ≠ v.word :=
  m.text_ne_of_plain v.ofString_word

/-- Of a command line the words before its command are told from those behind it. -/
theorem before_and_behind_unique {before before' : List Louder} {v v' : Verb}
    {behind behind' : List String}
    (h : before.map Louder.text ++ v.word :: behind =
      before'.map Louder.text ++ v'.word :: behind') :
    before = before' ∧ behind = behind' := by
  induction before generalizing before' with
  | nil =>
    cases before' with
    | nil => exact ⟨rfl, (List.cons.inj h).2⟩
    | cons m' before' => exact absurd (List.cons.inj h).1.symm (m'.text_ne_word v)
  | cons m before ih =>
    cases before' with
    | nil => exact absurd (List.cons.inj h).1 (m.text_ne_word v')
    | cons m' before' =>
      obtain ⟨hm, hrest⟩ := List.cons.inj h
      obtain ⟨hbefore, hbehind⟩ := ih hrest
      exact ⟨by rw [Louder.text_injective hm, hbefore], hbehind⟩

/-- A place is before the command or behind it. -/
theorem before_or_behind {before : List Louder} {v : Verb} {behind front back : List String}
    (h : front ++ back = before.map Louder.text ++ v.word :: behind) :
    (∃ before₁ before₂, before = before₁ ++ before₂ ∧ front = before₁.map Louder.text ∧
        back = before₂.map Louder.text ++ v.word :: behind) ∨
      ∃ mid, front = before.map Louder.text ++ v.word :: mid ∧ behind = mid ++ back := by
  rcases List.append_eq_append_iff.1 h with ⟨rest, hbefore, hback⟩ | ⟨mid, hfront, hbehind⟩
  · obtain ⟨before₁, before₂, rfl, hfront, rfl⟩ := List.map_eq_append_iff.1 hbefore
    exact .inl ⟨before₁, before₂, rfl, hfront.symm, hback⟩
  · cases mid with
    | nil => exact .inl ⟨before, [], by simp, by simpa using hfront, by simpa using hbehind.symm⟩
    | cons word mid =>
      obtain ⟨rfl, rfl⟩ := List.cons.inj hbehind
      exact .inr ⟨mid, hfront, rfl⟩

/-- The option put here takes the place of all those before the command: it is the first one
behind the command, and before the command there are two or more. -/
def Replaces (front back : List String) : Prop :=
  ∃ (before : List Louder) (v : Verb) (mid : List String),
    front = before.map Louder.text ++ v.word :: mid ∧ 2 ≤ Louder.total before ∧
      ∀ m : Louder, m.text ∉ beforeSeparator (mid ++ back)

theorem replaces_behind_iff {before : List Louder} {v : Verb} {mid back : List String} :
    Replaces (before.map Louder.text ++ v.word :: mid) back ↔
      2 ≤ Louder.total before ∧ ∀ m : Louder, m.text ∉ beforeSeparator (mid ++ back) := by
  constructor
  · rintro ⟨before', v', mid', h, htotal, hmid⟩
    obtain ⟨rfl, rfl⟩ := before_and_behind_unique h
    exact ⟨htotal, hmid⟩
  · rintro ⟨htotal, hmid⟩
    exact ⟨before, v, mid, rfl, htotal, hmid⟩

theorem not_replaces_before (before : List Louder) (back : List String) :
    ¬Replaces (before.map Louder.text) back := by
  rintro ⟨before', v', mid', h, -⟩
  have hmem : v'.word ∈ before.map Louder.text := by simp [h]
  obtain ⟨m, -, hm⟩ := List.mem_map.1 hmem
  exact m.text_ne_word v' hm

namespace Invocation

variable {i : Invocation}

theorem ofWords_one_more_before {before₁ before₂ : List Louder} {v : Verb} {behind : List String}
    (h : ofWords ((before₁ ++ before₂).map Louder.text ++ v.word :: behind) = .ok i) :
    ∃ i', ofWords ((before₁ ++ .letters 0 :: before₂).map Louder.text ++ v.word :: behind) =
        .ok i' ∧
      i'.command = i.command ∧ i.verbosity ≤ i'.verbosity := by
  obtain ⟨r, htakes, hcommand, hverbosity⟩ := (ofWords_command_eq_ok_iff _ v behind).1 h
  refine ⟨⟨if r.verbosity = 0 then min 255 (Louder.total (before₁ ++ before₂) + 1)
    else r.verbosity, i.command⟩, ?_, rfl, ?_⟩
  · rw [ofWords_command_eq_ok_iff, Louder.total_insert]
    exact ⟨r, htakes, hcommand, rfl⟩
  · rw [hverbosity]
    dsimp only
    split <;> omega

theorem ofWords_one_more_behind {before : List Louder} {v : Verb} {mid back : List String}
    (h : ofWords (before.map Louder.text ++ v.word :: (mid ++ back)) = .ok i)
    (hp : Reading.IsOptionPlace mid) :
    ∃ i', ofWords (before.map Louder.text ++ v.word :: (mid ++ "-v" :: back)) = .ok i' ∧
      i'.command = i.command ∧
      ((∀ m : Louder, m.text ∉ beforeSeparator (mid ++ back)) →
        i.verbosity = min 255 (Louder.total before) ∧ i'.verbosity = 1) ∧
      (¬(∀ m : Louder, m.text ∉ beforeSeparator (mid ++ back)) →
        i.verbosity ≤ i'.verbosity) := by
  obtain ⟨r, htakes, hcommand, hverbosity⟩ := (ofWords_command_eq_ok_iff before v _).1 h
  have hle : r.verbosity ≤ 255 := htakes.verbosity_le (by decide)
  have hzero : r.verbosity = 0 ↔ ∀ m : Louder, m.text ∉ beforeSeparator (mid ++ back) := by
    simpa using htakes.verbosity_eq_zero_iff
  refine ⟨⟨(r.louder 1).verbosity, i.command⟩, ?_, rfl, ?_⟩
  · rw [ofWords_command_eq_ok_iff]
    refine ⟨r.louder 1, htakes.insert rfl hp, by rw [v.command_louder, hcommand], ?_⟩
    exact (if_neg (r.louder_verbosity_ne_zero (.letters 0))).symm
  · rw [← hzero, hverbosity]
    constructor
    · intro h0
      rw [if_pos h0, Reading.louder, h0]
      exact ⟨rfl, rfl⟩
    · intro h0
      rw [if_neg h0]
      simp only [Reading.louder, Reading.mostVerbose]
      omega

theorem shows_ofVerbosity_mono {m n : Nat} (h : m ≤ n) {record : Log.Record}
    (shown : (Log.Filter.ofThreshold (.ofVerbosity m)).shows record = true) :
    (Log.Filter.ofThreshold (.ofVerbosity n)).shows record = true := by
  rw [Log.Filter.shows_ofThreshold] at shown ⊢
  exact Log.Threshold.shows_of_rank_le
    (monotone_nat_of_le_succ Log.Threshold.rank_ofVerbosity_le_succ h) shown

/-- One more option for log records is taken in every place of an option, and the command stays
the same. All that was shown is still shown, except where the option takes the place of two or more
before the command: there debug records were shown, and are not shown any more. -/
theorem ofWords_one_more {front back : List String} (h : ofWords (front ++ back) = .ok i)
    (hp : Reading.IsOptionPlace front) :
    ∃ i', ofWords (front ++ "-v" :: back) = .ok i' ∧ i'.command = i.command ∧
      (¬Replaces front back → i.verbosity ≤ i'.verbosity ∧ ∀ record,
        (i.setting none).filter.shows record = true →
          (i'.setting none).filter.shows record = true) ∧
      (Replaces front back → 2 ≤ i.verbosity ∧ i'.verbosity = 1 ∧ ∀ record,
        record.level = .debug → (i.setting none).filter.shows record = true ∧
          (i'.setting none).filter.shows record = false) := by
  obtain ⟨before, v, behind, hwords⟩ := exists_command_of_ofWords h
  rw [hwords] at h
  rcases before_or_behind hwords with ⟨before₁, before₂, rfl, rfl, rfl⟩ | ⟨mid, rfl, rfl⟩
  · obtain ⟨i', hi', hcommand, hle⟩ := ofWords_one_more_before h
    refine ⟨i', ?_, hcommand, fun _ => ⟨hle, fun _ => shows_ofVerbosity_mono hle⟩,
      fun hreplaces => absurd hreplaces (not_replaces_before _ _)⟩
    rw [← hi', List.map_append, List.append_assoc]
    rfl
  · have hmid : Reading.IsOptionPlace mid := by
      have hp : Reading.IsOptionPlace ((before.map Louder.text ++ [v.word]) ++ mid) := by
        simpa using hp
      exact hp.of_append
    obtain ⟨i', hi', hcommand, hfirst, hlater⟩ := ofWords_one_more_behind h hmid
    refine ⟨i', by simpa using hi', hcommand, fun hkeeps => ?_, fun hreplaces => ?_⟩
    · rw [replaces_behind_iff] at hkeeps
      have hle : i.verbosity ≤ i'.verbosity := by
        by_cases hnone : ∀ m : Louder, m.text ∉ beforeSeparator (mid ++ back)
        · have htotal : ¬2 ≤ Louder.total before := fun htotal => hkeeps ⟨htotal, hnone⟩
          obtain ⟨hi, hi'⟩ := hfirst hnone
          omega
        · exact hlater hnone
      exact ⟨hle, fun _ => shows_ofVerbosity_mono hle⟩
    · obtain ⟨htotal, hnone⟩ := replaces_behind_iff.1 hreplaces
      obtain ⟨hi, hi'⟩ := hfirst hnone
      have htwo : 2 ≤ i.verbosity := by omega
      refine ⟨htwo, hi', fun record hlevel => ⟨?_, ?_⟩⟩
      · refine shows_ofVerbosity_mono htwo ?_
        rw [Log.Filter.shows_ofThreshold, hlevel]
        rfl
      · rw [setting, hi', Option.getD_none, Log.Setting.ofThreshold, Log.Filter.shows_ofThreshold,
          hlevel]
        rfl

/-- Behind a command the option is the first of its kind or one more. -/
theorem one_more_behind_types_and_size :
    (∃ i, ofWords ["-v", "types", "--color", "always", "-v", "--json"] = .ok i ∧
      i.command = .types ⟨true, true, true, .always⟩ ∧ 1 ≤ i.verbosity) ∧
    ∃ i, ofWords ["-vv", "size", "-v", "int"] = .ok i ∧
      i.command = .size ⟨["int"], false⟩ ∧ i.verbosity = 1 := by
  constructor
  · have hwords : ofWords (["-v", "types", "--color", "always"] ++ ["--json"]) =
        .ok ⟨1, .types ⟨true, true, true, .always⟩⟩ := rfl
    have hkeeps : ¬Replaces ([Louder.letters 0].map Louder.text ++ Verb.types.word ::
        ["--color", "always"]) ["--json"] := by
      rw [replaces_behind_iff]
      exact fun hreplaces => absurd hreplaces.1 (by decide)
    obtain ⟨i, hi, hcommand, hmore, -⟩ := ofWords_one_more hwords ⟨by decide, by decide⟩
    exact ⟨i, hi, hcommand, (hmore hkeeps).1⟩
  · have hreplaces : Replaces ["-vv", "size"] ["int"] :=
      ⟨[.letters 1], .size, [], rfl, by decide, fun m hm => by
        have hint : m.text = "int" := by simpa [beforeSeparator] using hm
        exact m.text_ne_of_plain rfl hint⟩
    have hwords : ofWords (["-vv", "size"] ++ ["int"]) = .ok ⟨2, .size ⟨["int"], false⟩⟩ := rfl
    obtain ⟨i, hi, hcommand, -, hless⟩ := ofWords_one_more hwords ⟨by decide, by decide⟩
    exact ⟨i, hi, hcommand, (hless hreplaces).2.1⟩

end Invocation

/-- One more option, and the log is empty. -/
theorem one_more_shows_less :
    respond none false ["-v", "-v", "size", "int"] = .ok ⟨0, "int  4\n",
      "[DEBUG cfgir::commands::size] \x22int\x22 parsed as int (4 bytes)\n"⟩ ∧
    respond none false ["-v", "-v", "size", "-v", "int"] = .ok ⟨0, "int  4\n", ""⟩ := by
  constructor
  · rfl
  · rfl

end TypeLattice.Cli
