import Mathlib.Data.List.Pairwise
import TypeLattice.Proofs.Cli.CommandLine

/-!
# Options in any order

The options behind `types` may stand in any order: each says one thing, and what it says does not
depend on where it stands. No order of them hides both sections of the lattice, since the two
options that hide one each are refused together, whichever of them stands first.

Results:

* `OptionGroup.addAll_perm`: what the options add does not depend on their order;
* `takes_types_iff`: which options may stand behind `types`;
* `ofWords_types_exclusive`: the two options that exclude each other;
* `ofWords_types_reordered`: what a command line for the lattice asks for, in every order.
-/
namespace TypeLattice.Cli

namespace OptionGroup

variable {r : Reading} {g : OptionGroup} {groups groups' : List OptionGroup}

/-! ## Options that may stand together -/

/-- The two are not the same option, unless it may be repeated. -/
def Differ (g h : OptionGroup) : Prop := g.switch = h.switch → g.switch = .verbose

theorem Differ.symm {g h : OptionGroup} (hd : Differ g h) : Differ h g := by
  intro heq
  rw [heq]
  exact hd heq.symm

instance : Std.Symm Differ := ⟨fun _ _ hd => hd.symm⟩

/-- None of the options was given before, and none is given twice. -/
structure Fit (r : Reading) (groups : List OptionGroup) : Prop where
  new : ∀ g ∈ groups, r.given g.switch = false
  once : groups.Pairwise Differ

theorem Fit.perm (h : Fit r groups) (hp : groups'.Perm groups) : Fit r groups' :=
  ⟨fun g hg => h.new g (hp.subset hg), hp.symm.pairwise h.once Differ.symm⟩

theorem given_addTo (r : Reading) (g : OptionGroup) (option : Switch) :
    (g.addTo r).given option =
      (r.given option || decide (g.switch = option ∧ option ≠ .verbose)) := by
  cases g <;> cases option <;> simp [Reading.given, addTo, switch, Reading.louder]

theorem fit_nil (r : Reading) : Fit r [] := ⟨nofun, .nil⟩

theorem fit_cons : Fit r (g :: groups) ↔ r.given g.switch = false ∧ Fit (g.addTo r) groups := by
  have hgiven : ∀ h : OptionGroup, (g.addTo r).given h.switch = false ↔
      r.given h.switch = false ∧ Differ g h := by
    intro h
    rw [given_addTo, Bool.or_eq_false_iff, decide_eq_false_iff_not, Differ]
    grind
  constructor
  · rintro ⟨hnew, honce⟩
    obtain ⟨hdiffer, honce⟩ := List.pairwise_cons.1 honce
    refine ⟨hnew g List.mem_cons_self, fun h hh => ?_, honce⟩
    exact (hgiven h).2 ⟨hnew h (List.mem_cons_of_mem g hh), hdiffer h hh⟩
  · rintro ⟨hg, hnew, honce⟩
    refine ⟨fun h hh => ?_, List.pairwise_cons.2 ⟨fun h hh => ((hgiven h).1 (hnew h hh)).2, honce⟩⟩
    rcases List.mem_cons.1 hh with rfl | hh
    · exact hg
    · exact ((hgiven h).1 (hnew h hh)).1

/-! ## What the options add -/

/-- What was read before the options, with what they add. -/
def addAll (r : Reading) (groups : List OptionGroup) : Reading := groups.foldl addTo r

theorem addTo_comm {g h : OptionGroup} (hd : Differ g h) (r : Reading) :
    h.addTo (g.addTo r) = g.addTo (h.addTo r) := by
  cases g with
  | louder m =>
    cases h with
    | louder n => rw [addTo, addTo, addTo, addTo, Reading.louder_louder, Reading.louder_louder,
        Nat.add_comm]
    | json | scalars | references | color joined w => rfl
  | json | scalars | references | color joined w =>
    cases h <;> first | rfl | exact absurd (hd rfl) nofun

/-- What the options add does not depend on their order. -/
theorem addAll_perm (h : Fit r groups) (hp : groups'.Perm groups) :
    addAll r groups' = addAll r groups := by
  refine (hp.symm.foldl_eq' (fun x hx y hy r => ?_) r).symm
  by_cases hxy : x = y
  · rw [hxy]
  · exact addTo_comm (h.once.forall hx hy hxy) r

theorem given_addAll (r : Reading) (groups : List OptionGroup) (option : Switch) :
    (addAll r groups).given option = true ↔
      r.given option = true ∨ option ≠ .verbose ∧ ∃ g ∈ groups, g.switch = option := by
  induction groups generalizing r with
  | nil => simp [addAll]
  | cons g groups ih =>
    rw [addAll, List.foldl_cons, ← addAll, ih, given_addTo]
    simp only [Bool.or_eq_true, decide_eq_true_eq, List.mem_cons, exists_eq_or_imp]
    grind

theorem eq_of_switch {g h : OptionGroup} (hs : h.switch = g.switch) (hv : g.switch ≠ .verbose)
    (hc : g.switch ≠ .color) : h = g := by
  cases g <;> cases h <;> first | rfl | exact absurd rfl hv | exact absurd rfl hc | cases hs

/-- An option without a value is in force just if it is given. -/
theorem given_addAll_empty_iff (hv : g.switch ≠ .verbose) (hc : g.switch ≠ .color) :
    (addAll {} groups).given g.switch = true ↔ g ∈ groups := by
  have hempty : ({} : Reading).given g.switch = false := by cases g <;> rfl
  rw [given_addAll, hempty]
  constructor
  · rintro (h | ⟨-, h, hm, hs⟩)
    · cases h
    · rwa [← eq_of_switch hs hv hc]
  · exact fun hm => .inr ⟨hv, g, hm, rfl⟩

/-- The choice of a colour is in force wherever it stands. -/
theorem color_addAll_of_mem (h : Fit r groups) {joined : Bool} {w : ColorWhen}
    (hm : color joined w ∈ groups) : (addAll r groups).color = some w := by
  obtain ⟨front, back, rfl⟩ := List.append_of_mem hm
  -- the same options with the colour at their end
  have hp : (front ++ back ++ [color joined w]).Perm (front ++ color joined w :: back) := by
    rw [List.append_assoc]
    exact (List.perm_append_singleton _ back).append_left front
  rw [← addAll_perm h hp, addAll, List.foldl_append]
  rfl

theorem mem_of_color_addAll {w : ColorWhen} (h : (addAll r groups).color = some w) :
    r.color = some w ∨ ∃ joined, color joined w ∈ groups := by
  induction groups generalizing r with
  | nil => exact .inl h
  | cons g groups ih =>
    rw [addAll, List.foldl_cons, ← addAll] at h
    rcases ih h with hr | ⟨joined, hm⟩
    · cases g with
      | color joined w' =>
        cases hr
        exact .inr ⟨joined, List.mem_cons_self⟩
      | louder m | json | scalars | references => exact .inl hr
    · exact .inr ⟨joined, List.mem_cons_of_mem g hm⟩

end OptionGroup

open OptionGroup

/-! ## Words behind `types` -/

/-- The separator, if the options are ended by it. -/
def endMark (ended : Bool) : List String := if ended then ["--"] else []

/-- A command line for the lattice. -/
def typesLine (before : List Louder) (groups : List OptionGroup) (ended : Bool) : List String :=
  before.map Louder.text ++ "types" :: (groups.flatMap words ++ endMark ended)

theorem run_types_eq_ok_iff {r s : Reading} (ho : r.IsOpen) (groups : List OptionGroup)
    (words : List String) :
    Reading.run .types r (groups.flatMap OptionGroup.words ++ words) = .ok s ↔
      Fit r groups ∧ Reading.run .types (addAll r groups) words = .ok s := by
  induction groups generalizing r with
  | nil => simp [fit_nil, addAll]
  | cons g groups ih =>
    have known : Scope.types.knows g.switch = true := by cases g <;> rfl
    rw [List.flatMap_cons, List.append_assoc, fit_cons, addAll, List.foldl_cons, ← addAll]
    constructor
    · intro h
      have new := Reading.given_eq_false_of_run ho known h
      rw [Reading.run_option ho known new, ih (ho.addTo g)] at h
      exact ⟨⟨new, h.1⟩, h.2⟩
    · rintro ⟨⟨new, hfit⟩, h⟩
      rw [Reading.run_option ho known new, ih (ho.addTo g)]
      exact ⟨hfit, h⟩

theorem isOpen_addAll {r : Reading} (ho : r.IsOpen) (groups : List OptionGroup) :
    (addAll r groups).IsOpen := by
  induction groups generalizing r with
  | nil => exact ho
  | cons g groups ih => exact ih (ho.addTo g)

theorem run_types_endMark {r : Reading} (ho : r.IsOpen) (ended : Bool) :
    Reading.run .types r (endMark ended) = .ok { r with literal := ended } := by
  cases ended with
  | false =>
    rw [endMark, if_neg Bool.false_ne_true, Reading.run_nil, ho.settle, ← ho.literal]
  | true =>
    have htakes : Reading.Takes .types r ["--"] _ := .separator r [] (.inl rfl)
    have hrun := htakes.run_eq_ok ho
    rwa [List.append_nil] at hrun

/-- The options that may stand behind `types`. -/
theorem takes_types_iff {s : Reading} (groups : List OptionGroup) (ended : Bool) :
    Reading.Takes .types {} (groups.flatMap words ++ endMark ended) s ↔
      Fit {} groups ∧ s = { addAll {} groups with literal := ended } := by
  rw [← Reading.run_eq_ok_iff Reading.isOpen_empty, run_types_eq_ok_iff Reading.isOpen_empty,
    run_types_endMark (isOpen_addAll Reading.isOpen_empty groups), Except.ok.injEq,
    eq_comm (a := s)]

/-- Nothing else may stand there. -/
theorem exists_groups_of_takes {r s : Reading} {words : List String}
    (h : Reading.Takes .types r words s) :
    ∃ (groups : List OptionGroup) (ended : Bool),
      words = groups.flatMap OptionGroup.words ++ endMark ended := by
  induction h with
  | done r => exact ⟨[], false, rfl⟩
  | separator r names h =>
    rcases h with rfl | h
    · exact ⟨[], true, rfl⟩
    · cases h
  | option g known new rest ih =>
    obtain ⟨groups, ended, rfl⟩ := ih
    exact ⟨g :: groups, ended, by rw [List.flatMap_cons, List.append_assoc]⟩
  | name name h => cases h

/-! ## Command lines for the lattice -/

namespace Invocation

variable {i : Invocation} {before : List Louder} {groups : List OptionGroup} {ended : Bool}

theorem ofWords_typesLine_eq_ok_iff : ofWords (typesLine before groups ended) = .ok i ↔
    Fit {} groups ∧ (addAll {} groups).types = .ok i.command ∧
      i.verbosity = if (addAll {} groups).verbosity = 0 then min 255 (Louder.total before)
        else (addAll {} groups).verbosity := by
  rw [typesLine, show "types" = Verb.types.word from rfl, ofWords_command_eq_ok_iff]
  constructor
  · rintro ⟨r, ht, hcommand, hverbosity⟩
    obtain ⟨hfit, rfl⟩ := (takes_types_iff groups ended).1 ht
    exact ⟨hfit, hcommand, hverbosity⟩
  · rintro ⟨hfit, hcommand, hverbosity⟩
    exact ⟨_, (takes_types_iff groups ended).2 ⟨hfit, rfl⟩, hcommand, hverbosity⟩

theorem exists_typesLine_of_ofWords {words : List String} {verbosity : Nat} {c : TypesCommand}
    (h : ofWords words = .ok ⟨verbosity, .types c⟩) :
    ∃ before groups ended, words = typesLine before groups ended := by
  obtain ⟨before, v, behind, rfl⟩ := exists_command_of_ofWords h
  obtain ⟨r, ht, hcommand, -⟩ := (ofWords_command_eq_ok_iff before v behind).1 h
  cases v with
  | types =>
    obtain ⟨groups, ended, rfl⟩ := exists_groups_of_takes ht
    exact ⟨before, groups, ended, rfl⟩
  | size =>
    simp only [Verb.command, Reading.size] at hcommand
    split at hcommand <;> cases hcommand

/-- Another order of the options asks for the same. -/
theorem ofWords_typesLine_perm {groups' : List OptionGroup} (hp : groups'.Perm groups)
    (h : ofWords (typesLine before groups ended) = .ok i) :
    ofWords (typesLine before groups' ended) = .ok i := by
  rw [ofWords_typesLine_eq_ok_iff] at h ⊢
  rw [addAll_perm h.1 hp]
  exact ⟨h.1.perm hp, h.2⟩

end Invocation

theorem Reading.types_eq_ok_iff {r : Reading} {c : TypesCommand} : r.types = .ok (.types c) ↔
    ¬(r.onlyScalars = true ∧ r.onlyReferences = true) ∧
      c = ⟨!r.onlyReferences, !r.onlyScalars, r.json, r.color.getD .auto⟩ := by
  rw [types, ← Bool.and_eq_true_iff]
  split
  · simp [*]
  · simp [*, eq_comm]

/-- The two options that exclude each other are refused in every order, and for that reason unless
another option is given twice. -/
theorem ofWords_types_exclusive {groups : List OptionGroup} (hs : .scalars ∈ groups)
    (hr : .references ∈ groups) (before : List Louder) (ended : Bool) :
    ∃ halt, Invocation.ofWords (typesLine before groups ended) = .error halt ∧
      (Fit {} groups → halt = .exclusive .scalars .references) := by
  have hscalars : (addAll {} groups).onlyScalars = true :=
    (given_addAll_empty_iff (g := .scalars) nofun nofun).2 hs
  have hreferences : (addAll {} groups).onlyReferences = true :=
    (given_addAll_empty_iff (g := .references) nofun nofun).2 hr
  have htypes : (addAll {} groups).types = .error (.exclusive .scalars .references) := by
    rw [Reading.types, hscalars, hreferences]
    rfl
  cases h : Invocation.ofWords (typesLine before groups ended) with
  | ok i =>
    obtain ⟨-, hcommand, -⟩ := Invocation.ofWords_typesLine_eq_ok_iff.1 h
    rw [htypes] at hcommand
    cases hcommand
  | error halt =>
    refine ⟨halt, rfl, fun hfit => ?_⟩
    have htakes := (takes_types_iff groups ended).2 ⟨hfit, rfl⟩
    have hline := Invocation.ofWords_command_of_takes (v := .types) htakes before
    have hreading : Invocation.ofReading (min 255 (Louder.total before)) Verb.types.command
        { addAll {} groups with literal := ended } = .error (.exclusive .scalars .references) :=
      Invocation.ofReading_of_error htypes _
    exact Except.error.inj (h.symm.trans (hline.trans hreading))

/-- Which sections are shown, from the options that were given: each of two hides the other's. -/
theorem sections_of_types {groups : List OptionGroup} {c : TypesCommand}
    (hc : (addAll {} groups).types = .ok (.types c)) :
    (c.scalars = true ↔ .references ∉ groups) ∧ (c.references = true ↔ .scalars ∉ groups) := by
  obtain ⟨-, rfl⟩ := Reading.types_eq_ok_iff.1 hc
  have hreferences : (addAll {} groups).onlyReferences = true ↔ .references ∈ groups :=
    given_addAll_empty_iff (g := .references) nofun nofun
  have hscalars : (addAll {} groups).onlyScalars = true ↔ .scalars ∈ groups :=
    given_addAll_empty_iff (g := .scalars) nofun nofun
  simp [← hreferences, ← hscalars]

/-- Whether the table is coloured on a pipe, from the options that were given. -/
theorem colored_of_fit {groups : List OptionGroup} (hfit : Fit {} groups) {c : TypesCommand}
    (hc : (addAll {} groups).types = .ok (.types c)) :
    (.json ∈ groups → ∀ terminal, c.colored terminal = false) ∧
      (.json ∉ groups → (c.colored false = true ↔ ∃ joined, .color joined .always ∈ groups)) := by
  obtain ⟨-, rfl⟩ := Reading.types_eq_ok_iff.1 hc
  have hjson : (addAll {} groups).json = true ↔ .json ∈ groups :=
    given_addAll_empty_iff (g := .json) nofun nofun
  have halways : ((addAll {} groups).color.getD .auto).colors false = true ↔
      (addAll {} groups).color = some .always := by
    rcases (addAll {} groups).color with _ | w
    · decide
    · cases w <;> decide
  constructor
  · intro hm terminal
    rw [TypesCommand.colored, hjson.2 hm]
    rfl
  · intro hm
    rw [TypesCommand.colored, Bool.eq_false_iff.2 fun h => hm (hjson.1 h), Bool.not_false,
      Bool.true_and, halways]
    constructor
    · intro h
      rcases mem_of_color_addAll h with h | h
      · cases h
      · exact h
    · rintro ⟨joined, h⟩
      exact color_addAll_of_mem hfit h

/-- A command line for the lattice shows a section at least, namely each one that no option leaves
out, and the order of its options makes no difference to it. It is coloured on a pipe just if that
was asked for and JSON was not. The two options that leave out a section each are refused together
in every order. -/
theorem ofWords_types_reordered :
    (∀ words verbosity c, Invocation.ofWords words = .ok ⟨verbosity, .types c⟩ →
      (c.scalars = true ∨ c.references = true) ∧
        ∃ before groups ended, words = typesLine before groups ended) ∧
    (∀ before groups ended verbosity c,
      Invocation.ofWords (typesLine before groups ended) = .ok ⟨verbosity, .types c⟩ →
      (c.scalars = true ↔ .references ∉ groups) ∧ (c.references = true ↔ .scalars ∉ groups) ∧
      (.json ∈ groups → ∀ terminal, c.colored terminal = false) ∧
      (.json ∉ groups → (c.colored false = true ↔ ∃ joined, .color joined .always ∈ groups)) ∧
      ∀ groups', groups'.Perm groups →
        Invocation.ofWords (typesLine before groups' ended) = .ok ⟨verbosity, .types c⟩) ∧
    ∀ before groups ended, .scalars ∈ groups → .references ∈ groups →
      ∃ halt, Invocation.ofWords (typesLine before groups ended) = .error halt ∧
        (Fit {} groups → halt = .exclusive .scalars .references) := by
  refine ⟨fun words verbosity c h => ?_, fun before groups ended verbosity c h => ?_,
    fun before groups ended hs hr => ofWords_types_exclusive hs hr before ended⟩
  · obtain ⟨before, groups, ended, rfl⟩ := Invocation.exists_typesLine_of_ofWords h
    obtain ⟨-, hcommand, -⟩ := Invocation.ofWords_typesLine_eq_ok_iff.1 h
    obtain ⟨hnot, rfl⟩ := Reading.types_eq_ok_iff.1 hcommand
    refine ⟨?_, before, groups, ended, rfl⟩
    simpa [Classical.or_iff_not_imp_right] using hnot
  · obtain ⟨hfit, hcommand, -⟩ := Invocation.ofWords_typesLine_eq_ok_iff.1 h
    obtain ⟨hscalars, hreferences⟩ := sections_of_types hcommand
    obtain ⟨hjson, halways⟩ := colored_of_fit hfit hcommand
    exact ⟨hscalars, hreferences, hjson, halways,
      fun groups' hp => Invocation.ofWords_typesLine_perm hp h⟩

/-- A colour and a section in two orders, between words for more log records; the two sections
left out, in both orders. -/
theorem references_in_colour_reordered :
    (∃ c : TypesCommand, c = ⟨false, true, false, .always⟩ ∧
      Invocation.ofWords ["-v", "types", "--color", "always", "-vv", "--references"] =
        .ok ⟨2, .types c⟩ ∧
      Invocation.ofWords ["-v", "types", "--references", "-vv", "--color", "always"] =
        .ok ⟨2, .types c⟩ ∧
      (c.scalars = true ∨ c.references = true) ∧ c.colored false = true) ∧
    Invocation.ofWords ["types", "--scalars", "--references"] =
      .error (.exclusive .scalars .references) ∧
    Invocation.ofWords ["types", "--references", "--scalars"] =
      .error (.exclusive .scalars .references) := by
  obtain ⟨hshown, hline, hexclusive⟩ := ofWords_types_reordered
  have hfit : ∀ groups ∈ [[scalars, references], [references, scalars]], Fit {} groups := by
    intro groups hg
    refine ⟨fun g _ => by cases g <;> rfl, ?_⟩
    simp only [List.mem_cons, List.not_mem_nil, or_false] at hg
    rcases hg with rfl | rfl <;> simp [Differ, switch]
  refine ⟨⟨_, rfl, ?_⟩, ?_, ?_⟩
  · let groups : List OptionGroup := [color false .always, louder (.letters 1), references]
    have hwords : Invocation.ofWords (typesLine [.letters 0] groups false) =
      .ok ⟨2, .types ⟨false, true, false, .always⟩⟩ := rfl
    obtain ⟨-, -, -, halways, horder⟩ := hline [.letters 0] groups false 2 _ hwords
    have hmem : ∃ joined, color joined .always ∈ groups := ⟨false, List.mem_cons_self⟩
    exact ⟨rfl, horder [references, louder (.letters 1), color false .always] (by decide),
      (hshown _ _ _ hwords).1, (halways (by decide)).2 hmem⟩
  · obtain ⟨halt, herror, hwhy⟩ := hexclusive [] [scalars, references] false (by decide) (by decide)
    rw [← hwhy (hfit _ (by decide))]
    exact herror
  · obtain ⟨halt, herror, hwhy⟩ := hexclusive [] [references, scalars] false (by decide) (by decide)
    rw [← hwhy (hfit _ (by decide))]
    exact herror

end TypeLattice.Cli
