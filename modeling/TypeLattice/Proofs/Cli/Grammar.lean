import TypeLattice.Proofs.Cli.Pending
import TypeLattice.Proofs.Cli.Words

/-!
# The grammar of the words behind a command

The words behind a command that is carried out have a simple form: options, each with its value,
and for `size` names; a separator ends the options. An option other than that for more records is
given once at most. `Takes` is this form together with what is read from it, without the order in
which values are looked at.

Results:

* `takeWord_cases`: what one word does where no value is awaited;
* `run_eq_ok_iff`: the words behind a command are taken just if they have this form.
-/
namespace TypeLattice.Cli

namespace ColorWhen

/-- The name of the choice. -/
def name : ColorWhen → String
  | auto => "auto"
  | always => "always"
  | never => "never"

theorem ofName?_eq_some_iff {value : String} {w : ColorWhen} :
    ofName? value = some w ↔ value = w.name := by
  constructor
  · intro h
    unfold ofName? at h
    split at h <;> cases h <;> rfl
  · rintro rfl
    cases w <;> rfl

end ColorWhen

theorem Switch.eq_name_of_ofName? {name : String} {option : Switch}
    (h : ofName? name = some option) : name = option.name := by
  have hfound := List.find?_some h
  exact (of_decide_eq_true hfound).symm

/-! ## Options -/

/-- An option as it is given, with its value if it takes one. -/
inductive OptionGroup where
  | louder (m : Louder)
  | json
  | scalars
  | references
  /-- The value is joined to the option or stands behind it. -/
  | color (joined : Bool) (w : ColorWhen)
  deriving DecidableEq

namespace OptionGroup

/-- The option. -/
def switch : OptionGroup → Switch
  | louder _ => .verbose
  | json => .json
  | scalars => .scalars
  | references => .references
  | color _ _ => .color

/-- The words of the option. -/
def words : OptionGroup → List String
  | louder m => [m.text]
  | color true w => ["--color=" ++ w.name]
  | color false w => ["--color", w.name]
  | g => ["--" ++ g.switch.name]

/-- What was read before the option, with what the option adds. -/
def addTo (r : Reading) : OptionGroup → Reading
  | louder m => r.louder m.count
  | json => { r with json := true }
  | scalars => { r with onlyScalars := true }
  | references => { r with onlyReferences := true }
  | color _ w => { r with color := some w }

end OptionGroup

namespace Reading

variable {scope : Scope} {r s : Reading}

/-- Whether an option that may not be repeated was given. -/
def given (r : Reading) : Switch → Bool
  | .verbose | .help => false
  | .json => r.json
  | .scalars => r.onlyScalars
  | .references => r.onlyReferences
  | .color => r.color.isSome

theorem given_color_eq_false_iff : r.given .color = false ↔ r.color = none := by
  simp [given]

theorem IsOpen.addTo (ho : r.IsOpen) (g : OptionGroup) : (g.addTo r).IsOpen := by
  cases g with
  | louder m => exact ho.louder m.count
  | _ => exact ⟨ho.literal, ho.pending, ho.verbosity⟩

theorem IsOpen.color_eq (ho : r.IsOpen) (w : ColorWhen) :
    ({ r with color := some w, pending := .nothing } : Reading) = { r with color := some w } := by
  rw [← ho.pending]

/-! ## Options that are taken -/

/-- An option without a value is taken once. -/
theorem takeSwitch_flag (r : Reading) {g : OptionGroup} (hv : g.switch ≠ .verbose)
    (hc : g.switch ≠ .color) : r.takeSwitch g.switch =
      if r.given g.switch then .error (.repeated g.switch) else .ok (g.addTo r) := by
  cases g with
  | louder m => exact absurd rfl hv
  | color joined w => exact absurd rfl hc
  | json | scalars | references => rfl

theorem takeWord_switch (ho : r.IsOpen) {option : Switch} (known : scope.knows option = true) :
    r.takeWord scope ("--" ++ option.name) = r.takeSwitch option := by
  have hw : Word.ofString ("--" ++ option.name) = .long option.name none := by cases option <;> rfl
  refine ho.takeWord_long hw ?_
  rw [Switch.ofName?_name, Option.filter_some, if_pos known]

theorem takeWord_flag (ho : r.IsOpen) {g : OptionGroup} (known : scope.knows g.switch = true)
    (hv : g.switch ≠ .verbose) (hc : g.switch ≠ .color) : r.takeWord scope ("--" ++ g.switch.name) =
      if r.given g.switch then .error (.repeated g.switch) else .ok (g.addTo r) := by
  rw [takeWord_switch ho known, takeSwitch_flag r hv hc]

theorem takeWord_color (ho : r.IsOpen) (known : scope.knows .color = true) :
    r.takeWord scope "--color" = .ok { r with pending := .awaited } :=
  takeWord_switch ho known

theorem takeWord_joined_color (ho : r.IsOpen) (known : scope.knows .color = true) (w : ColorWhen) :
    r.takeWord scope ("--color=" ++ w.name) =
      ({ r with pending := .given w.name } : Reading).settle := by
  have hw : Word.ofString ("--color=" ++ w.name) = .long "color" (some w.name) := by cases w <;> rfl
  have hname : (Switch.ofName? "color").filter scope.knows = some .color := by
    rw [show Switch.ofName? "color" = some .color from rfl, Option.filter_some, if_pos known]
  rw [takeWord, if_neg (by simp [ho.literal]), hw]
  simp only [hname, takeLong, ho.settle, bind, Except.bind]

theorem takeWord_color_name (scope : Scope) (hl : r.literal = false) (hp : r.pending = .awaited)
    (w : ColorWhen) :
    r.takeWord scope w.name = .ok { r with pending := .given w.name } := by
  have hw : Word.ofString w.name = .plain w.name := by cases w <;> rfl
  rw [takeWord, if_neg (by simp [hl]), hw]
  simp only [takePlain, hp]

theorem settle_given_name (hn : r.color = none) (w : ColorWhen) :
    ({ r with pending := .given w.name } : Reading).settle =
      .ok { r with color := some w, pending := .nothing } :=
  settle_eq_ok_iff.2 (.inr ⟨_, w, rfl, hn, ColorWhen.ofName?_eq_some_iff.2 rfl, rfl⟩)

theorem run_color (ho : r.IsOpen) (known : scope.knows .color = true) (hn : r.color = none)
    (joined : Bool) (w : ColorWhen) (words : List String) :
    run scope r ((OptionGroup.color joined w).words ++ words) =
      run scope { r with color := some w } words := by
  cases joined with
  | true =>
    refine run_cons_of_ok ?_ words
    rw [takeWord_joined_color ho known, settle_given_name hn, ho.color_eq]
  | false =>
    let awaiting : Reading := { r with pending := .awaited }
    have hvalue := takeWord_color_name scope (r := awaiting) ho.literal rfl w
    have hsettle := settle_given_name (r := awaiting) hn w
    show run scope r ("--color" :: w.name :: words) = _
    rw [run_cons_of_ok (takeWord_color ho known), run_cons_of_ok hvalue, run_of_settle hsettle]
    exact congrArg (run scope · words) (ho.color_eq w)

/-- A new option is taken. -/
theorem run_option (ho : r.IsOpen) {g : OptionGroup} (known : scope.knows g.switch = true)
    (new : r.given g.switch = false) (words : List String) :
    run scope r (g.words ++ words) = run scope (g.addTo r) words := by
  cases g with
  | louder m => exact run_cons_of_ok (takeWord_louder scope ho m) words
  | color joined w => exact run_color ho known (given_color_eq_false_iff.1 new) joined w words
  | json | scalars | references =>
    refine run_cons_of_ok ?_ words
    rw [takeWord_flag ho known nofun nofun, new]
    rfl

/-- An option that was given is refused. -/
theorem given_eq_false_of_run (ho : r.IsOpen) {g : OptionGroup}
    (known : scope.knows g.switch = true) {words : List String}
    (h : run scope r (g.words ++ words) = .ok s) : r.given g.switch = false := by
  cases g with
  | louder m => rfl
  | json | scalars | references =>
    obtain ⟨t, ht, -⟩ := run_cons_eq_ok h
    rw [takeWord_flag ho known nofun nofun] at ht
    split at ht
    · cases ht
    · exact Bool.eq_false_iff.2 ‹_›
  | color joined w =>
    have hn : r.color = none := by
      cases joined with
      | true =>
        obtain ⟨t, ht, -⟩ := run_cons_eq_ok h
        rw [takeWord_joined_color ho known] at ht
        rcases settle_eq_ok_iff.1 ht with ⟨hp, -⟩ | ⟨value, w', -, hn, -⟩
        · cases hp
        · exact hn
      | false =>
        obtain ⟨t, ht, hrun⟩ := run_cons_eq_ok h
        rw [takeWord_color ho known] at ht
        cases ht
        obtain ⟨value, w', rest, -, -, hn, -⟩ :=
          exists_value_of_awaited (r := { r with pending := .awaited }) rfl ho.literal hrun
        exact hn
    exact given_color_eq_false_iff.2 hn

/-! ## One word -/

theorem takeLetter_eq_ok (ho : r.IsOpen) {c : Char} (h : takeLetter scope r c = .ok s) :
    c = 'v' ∧ s = r.louder 1 := by
  have hv : c = 'v' := by
    unfold takeLetter Switch.ofLetter? at h
    split at h
    · rename_i option ho'
      split at ho'
      · rfl
      · cases scope <;> cases ho' <;> simp [ho.settle, bind, Except.bind, takeSwitch] at h
      · cases ho'
    · cases h
  subst hv
  rw [takeLetter_louder ho] at h
  cases h
  exact ⟨rfl, rfl⟩

theorem foldlM_takeLetter_eq_ok (ho : r.IsOpen) {letters : List Char}
    (h : letters.foldlM (takeLetter scope) r = .ok s) :
    letters = List.replicate letters.length 'v' ∧ s = r.louder letters.length := by
  have hall : ∀ c ∈ letters, c = 'v' := by
    induction letters generalizing r with
    | nil => nofun
    | cons c letters ih =>
      rw [List.foldlM_cons] at h
      cases hc : takeLetter scope r c with
      | error e => simp [hc, bind, Except.bind] at h
      | ok t =>
        obtain ⟨rfl, rfl⟩ := takeLetter_eq_ok ho hc
        rw [hc] at h
        rintro d (- | ⟨-, hd⟩)
        · rfl
        · exact ih (ho.louder 1) h d hd
  have hletters := List.eq_replicate_of_mem hall
  rw [hletters, foldlM_takeLetter_louder ho] at h
  cases h
  exact ⟨hletters, rfl⟩

theorem takeSwitch_cases {option : Switch} (h : r.takeSwitch option = .ok s) :
    (∃ g : OptionGroup, g.switch = option ∧ r.given option = false ∧
      ["--" ++ option.name] = g.words ∧ s = g.addTo r) ∨
      (option = .color ∧ s = { r with pending := .awaited }) := by
  -- the option without a value, if it is one that is taken once
  have hflag : ∀ g : OptionGroup, g.switch = option → g.switch ≠ .verbose → g.switch ≠ .color →
      r.given option = false ∧ s = g.addTo r := by
    rintro g rfl hv hc
    rw [takeSwitch_flag r hv hc] at h
    split at h
    · cases h
    · cases h
      exact ⟨Bool.eq_false_iff.2 ‹_›, rfl⟩
  cases option with
  | verbose =>
    cases h
    exact .inl ⟨.louder .named, rfl, rfl, rfl, rfl⟩
  | help => cases h
  | json =>
    obtain ⟨hg, hs⟩ := hflag .json rfl nofun nofun
    exact .inl ⟨.json, rfl, hg, rfl, hs⟩
  | scalars =>
    obtain ⟨hg, hs⟩ := hflag .scalars rfl nofun nofun
    exact .inl ⟨.scalars, rfl, hg, rfl, hs⟩
  | references =>
    obtain ⟨hg, hs⟩ := hflag .references rfl nofun nofun
    exact .inl ⟨.references, rfl, hg, rfl, hs⟩
  | color =>
    cases h
    exact .inr ⟨rfl, rfl⟩

theorem takeLong_some_cases (ho : r.IsOpen) {option : Switch} {value : String}
    (h : r.takeLong option (some value) = .ok s) :
    ∃ w, option = .color ∧ value = w.name ∧ r.color = none ∧ s = { r with color := some w } := by
  cases option with
  | color =>
    have hs : ({ r with pending := .given value } : Reading).settle = .ok s := by
      simpa only [takeLong, ho.settle, bind, Except.bind] using h
    rcases settle_eq_ok_iff.1 hs with ⟨hp, -⟩ | ⟨value', w, hv, hn, hw, rfl⟩
    · cases hp
    · cases hv
      exact ⟨w, rfl, ColorWhen.ofName?_eq_some_iff.1 hw, hn, ho.color_eq w⟩
  | verbose | help | json | scalars | references => cases h

/-- What a word does where no value is awaited: it ends the options, is an option or the
beginning of one, or is a name. -/
theorem takeWord_cases (ho : r.IsOpen) {word : String} (h : r.takeWord scope word = .ok s) :
    (word = "--" ∧ s = { r with literal := true }) ∨
      (∃ g : OptionGroup, scope.knows g.switch = true ∧ r.given g.switch = false ∧
        [word] = g.words ∧ s = g.addTo r) ∨
      (word = "--color" ∧ scope.knows .color = true ∧ s = { r with pending := .awaited }) ∨
      (scope = .size ∧ Word.ofString word = .plain word ∧
        s = { r with names := r.names ++ [word] }) := by
  have hword := Word.text_ofString word
  have htake := h
  rw [takeWord, if_neg (by simp [ho.literal])] at h
  cases hw : Word.ofString word with
  | separator =>
    rw [hw] at h hword
    cases h
    exact .inl ⟨hword.symm, rfl⟩
  | long name value =>
    rw [hw] at hword
    simp only [hw] at h
    cases hf : (Switch.ofName? name).filter scope.knows with
    | none => simp [hf] at h
    | some option =>
      obtain ⟨hname, known⟩ := Option.filter_eq_some_iff.1 hf
      rw [Switch.eq_name_of_ofName? hname] at hword
      simp only [hf] at h
      cases value with
      | none =>
        simp only [takeLong, ho.settle, bind, Except.bind] at h
        rcases takeSwitch_cases h with ⟨g, rfl, hg, hwords, hs⟩ | ⟨rfl, hs⟩
        · exact .inr (.inl ⟨g, known, hg, by rw [← hwords, ← hword]; rfl, hs⟩)
        · exact .inr (.inr (.inl ⟨hword.symm, known, hs⟩))
      | some value =>
        obtain ⟨w, rfl, rfl, hn, hs⟩ := takeLong_some_cases ho h
        refine .inr (.inl ⟨.color true w, known, given_color_eq_false_iff.2 hn, ?_, hs⟩)
        rw [← hword]
        rfl
  | cluster letters =>
    rw [hw] at hword h
    obtain ⟨hletters, hs⟩ := foldlM_takeLetter_eq_ok ho h
    cases letters with
    | nil => exact absurd hw (Word.ofString_ne_cluster_nil word)
    | cons c letters =>
      refine .inr (.inl ⟨.louder (.letters letters.length), by cases scope <;> rfl, rfl, ?_, hs⟩)
      rw [← hword, hletters]
      simp [Word.text, OptionGroup.words, Louder.text, List.replicate_succ]
  | plain text =>
    have htext : text = word := by rwa [hw] at hword
    subst htext
    rw [ho.takeWord_plain hw] at htake
    cases scope with
    | program => cases htake
    | types => cases htake
    | size =>
      cases htake
      exact .inr (.inr (.inr ⟨rfl, rfl, rfl⟩))

/-! ## The words behind a command -/

/-- The words that may stand behind a command, and what is read from them: `r` was read before
them and `s` is read with them. -/
inductive Takes (scope : Scope) : Reading → List String → Reading → Prop where
  | done (r : Reading) : Takes scope r [] r
  /-- Behind the separator every word is a name. -/
  | separator (r : Reading) (names : List String) (h : names = [] ∨ scope = .size) :
      Takes scope r ("--" :: names) { r with literal := true, names := r.names ++ names }
  | option {r s : Reading} {words : List String} (g : OptionGroup)
      (known : scope.knows g.switch = true) (new : r.given g.switch = false)
      (rest : Takes scope (g.addTo r) words s) : Takes scope r (g.words ++ words) s
  | name {r s : Reading} {words : List String} (name : String) (h : scope = .size)
      (plain : Word.ofString name = .plain name)
      (rest : Takes scope { r with names := r.names ++ [name] } words s) :
      Takes scope r (name :: words) s

theorem Takes.run_eq_ok {words : List String} (h : Takes scope r words s) (ho : r.IsOpen) :
    run scope r words = .ok s := by
  induction h with
  | done r => exact ho.settle
  | separator r names h =>
    have hmark : r.takeWord scope "--" = .ok { r with literal := true } := by
      rw [takeWord, if_neg (by simp [ho.literal])]
      rfl
    have hsettle : ∀ names, ({ r with literal := true, names } : Reading).settle =
        .ok { r with literal := true, names } :=
      fun names => settle_eq_ok_iff.2 (.inl ⟨ho.pending, rfl⟩)
    rw [run_cons_of_ok hmark]
    rcases h with rfl | rfl
    · rw [run_nil, hsettle, List.append_nil]
    · rw [run, foldlM_takeWord_literal rfl]
      exact hsettle _
  | option g known new rest ih => rw [run_option ho known new, ih (ho.addTo g)]
  | @name t _ _ name h plain rest ih =>
    subst h
    have hname : t.takeWord .size name = .ok { t with names := t.names ++ [name] } :=
      ho.takeWord_plain plain
    rw [run_cons_of_ok hname]
    exact ih ⟨ho.literal, ho.pending, ho.verbosity⟩

theorem takes_of_literal {names : List String} (hl : r.literal = true)
    (hp : r.pending = .nothing) (h : run scope r names = .ok s) :
    (names = [] ∨ scope = .size) ∧ s = { r with names := r.names ++ names } := by
  cases names with
  | nil =>
    rw [run_nil, settle, hp] at h
    cases h
    simp
  | cons name names =>
    cases scope with
    | program | types =>
      obtain ⟨t, ht, -⟩ := run_cons_eq_ok h
      rw [takeWord, if_pos hl] at ht
      cases ht
    | size =>
      have hsettle : ({ r with names := r.names ++ name :: names } : Reading).settle =
          .ok { r with names := r.names ++ name :: names } := settle_eq_ok_iff.2 (.inl ⟨hp, rfl⟩)
      rw [run, foldlM_takeWord_literal hl] at h
      exact ⟨.inr rfl, Except.ok.inj (h.symm.trans hsettle)⟩

theorem takes_of_run {r s : Reading} {words : List String} (ho : r.IsOpen)
    (h : run scope r words = .ok s) : Takes scope r words s := by
  cases words with
  | nil =>
    rw [run_nil, ho.settle] at h
    cases h
    exact .done r
  | cons word words =>
    obtain ⟨t, ht, hrun⟩ := run_cons_eq_ok h
    rcases takeWord_cases ho ht with ⟨rfl, rfl⟩ | ⟨g, known, new, hwords, rfl⟩ |
      ⟨rfl, known, rfl⟩ | ⟨hscope, plain, rfl⟩
    · obtain ⟨hnames, rfl⟩ := takes_of_literal (r := { r with literal := true }) rfl ho.pending hrun
      exact .separator r words hnames
    · have hrest := takes_of_run (ho.addTo g) hrun
      have hall := Takes.option g known new hrest
      rwa [← hwords] at hall
    · -- the option and its value are taken together
      obtain ⟨value, w, rest, rfl, hw, hn, hrest⟩ :=
        exists_value_of_awaited (r := { r with pending := .awaited }) rfl ho.literal hrun
      rw [ColorWhen.ofName?_eq_some_iff] at hw
      subst hw
      have hopen := ho.addTo (.color false w)
      rw [show ({ r with color := some w, pending := .nothing } : Reading) =
        OptionGroup.addTo r (.color false w) from ho.color_eq w] at hrest
      exact .option (.color false w) known (given_color_eq_false_iff.2 hn)
        (takes_of_run hopen hrest)
    · have hopen : ({ r with names := r.names ++ [word] } : Reading).IsOpen :=
        ⟨ho.literal, ho.pending, ho.verbosity⟩
      exact .name word hscope plain (takes_of_run hopen hrun)
termination_by words.length

/-- The words behind a command are taken just if they have the form of `Takes`. -/
theorem run_eq_ok_iff (ho : r.IsOpen) {words : List String} :
    run scope r words = .ok s ↔ Takes scope r words s :=
  ⟨takes_of_run ho, fun h => h.run_eq_ok ho⟩

end Reading

end TypeLattice.Cli
