import TypeLattice.Log.Setting
import TypeLattice.Proofs.Pattern.Progress
import TypeLattice.Proofs.Pattern.Search

/-!
# Patterns that are read

A written pattern is refused if a repetition asks for more parts than it allows. All else that is
read is put together from ordered patterns, so a pattern that was read is ordered, and the search
finds just what it fits. A log setting may hold such a pattern; it shows the records whose message
has a part that fits.

Results:

* `isOrdered_of_readOpenGroups`: what holds of groups that are being read, from step to step;
* `isOrdered_of_ofText`: a pattern that was read is ordered;
* `Setting.shows_ofText_iff`: which records are shown by a setting that was read.
-/
namespace TypeLattice

namespace Pattern

variable {p : Pattern} {c : Cursor} {m : Mode}

/-- If it is known what the part stands for, the pattern is ordered. -/
def Part.IsOrdered (part : Part) : Prop := ∀ q, part.meaning = some (.ok q) → q.IsOrdered

/-- All that has been read of the group is ordered. -/
structure OpenGroup.IsOrdered (o : OpenGroup) : Prop where
  earlier : ∀ part ∈ o.earlier, part.IsOrdered
  parts : ∀ part ∈ o.parts, part.IsOrdered

/-! ## Parts and groups -/

theorem eq_map_ok_of_mapM {ms : List (Meaning Pattern)} {qs : List Pattern}
    (h : ms.mapM id = Except.ok qs) : ms = qs.map .ok := by
  induction ms generalizing qs with
  | nil =>
    cases h
    rfl
  | cons meaning ms ih =>
    rw [List.mapM_cons] at h
    cases meaning with
    | error e => cases h
    | ok q =>
      cases hrest : ms.mapM id with
      | error e =>
        rw [hrest] at h
        cases h
      | ok rest =>
        rw [hrest] at h
        cases h
        rw [ih hrest]
        rfl

theorem isOrdered_of_meanings {parts : List Part} {qs : List Pattern}
    (hparts : ∀ part ∈ parts, part.IsOrdered) (h : Part.meanings parts = .ok qs) :
    ∀ q ∈ qs, q.IsOrdered := by
  intro q hq
  have hm : Except.ok q ∈ parts.filterMap (·.meaning) := by
    rw [eq_map_ok_of_mapM h]
    exact List.mem_map_of_mem hq
  obtain ⟨part, hpart, hmeaning⟩ := List.mem_filterMap.1 hm
  exact hparts part hpart q hmeaning

theorem isOrdered_foldr_before {qs : List Pattern} (h : ∀ q ∈ qs, q.IsOrdered) :
    (qs.foldr (fun p q => before q p) empty).IsOrdered := by
  induction qs with
  | nil => trivial
  | cons q qs ih =>
    obtain ⟨hq, hqs⟩ := List.forall_mem_cons.1 h
    exact isOrdered_before hq (ih hqs)

theorem isOrdered_foldr_either {qs : List Pattern} (h : ∀ q ∈ qs, q.IsOrdered)
    (hp : p.IsOrdered) : (qs.foldr either p).IsOrdered := by
  induction qs with
  | nil => exact hp
  | cons q qs ih =>
    obtain ⟨hq, hqs⟩ := List.forall_mem_cons.1 h
    exact ⟨hq, ih hqs⟩

namespace OpenGroup

variable {o : OpenGroup}

theorem isOrdered_new (start : Nat) (noted : Bool) (mode : Mode) (first : Nat) :
    IsOrdered { start, noted, mode, first } :=
  ⟨List.forall_mem_nil _, List.forall_mem_nil _⟩

theorem IsOrdered.alternative (h : o.IsOrdered) (stop : Nat) :
    (o.alternative stop).IsOrdered := by
  intro q hq
  have hparts : ∀ part ∈ o.parts.reverse, part.IsOrdered :=
    fun part hpart => h.parts part (List.mem_reverse.1 hpart)
  simp only [OpenGroup.alternative, Option.some.injEq] at hq
  cases hm : Part.meanings o.parts.reverse with
  | error e =>
    rw [hm] at hq
    cases hq
  | ok qs =>
    rw [hm] at hq
    cases hq
    exact isOrdered_foldr_before (isOrdered_of_meanings hparts hm)

theorem IsOrdered.value (h : o.IsOrdered) {stop : Nat} (hp : (o.value stop).1 = .ok p) :
    p.IsOrdered := by
  have hparts : ∀ part ∈ o.earlier.reverse ++ [o.alternative stop], part.IsOrdered := by
    intro part hpart
    rcases List.mem_append.1 hpart with hpart | hpart
    · exact h.earlier part (List.mem_reverse.1 hpart)
    · rw [List.mem_singleton.1 hpart]
      exact h.alternative stop
  simp only [OpenGroup.value] at hp
  cases hm : Part.meanings (o.earlier.reverse ++ [o.alternative stop]) with
  | error e =>
    rw [hm] at hp
    cases hp
  | ok qs =>
    rw [hm] at hp
    cases hp
    have hqs := isOrdered_of_meanings hparts hm
    have hlast : (qs.getLast?.getD empty).IsOrdered := by
      cases hl : qs.getLast? with
      | none => trivial
      | some q => exact hqs q (List.mem_of_getLast? hl)
    have hfront : ∀ q ∈ qs.dropLast, q.IsOrdered :=
      fun q hq => hqs q ((List.dropLast_sublist qs).subset hq)
    have hall := isOrdered_foldr_either hfront hlast
    split
    · exact hall
    · exact hall

theorem IsOrdered.add (h : o.IsOrdered) {part : Part} (hpart : part.IsOrdered) :
    (o.add part).IsOrdered := ⟨h.earlier, List.forall_mem_cons.2 ⟨hpart, h.parts⟩⟩

theorem IsOrdered.addGroup (h : o.IsOrdered) {inner : OpenGroup} (hinner : inner.IsOrdered)
    (place : Nat) : (o.addGroup inner place).IsOrdered :=
  h.add fun _ hq => hinner.value (Option.some.inj hq)

theorem IsOrdered.turnMode (h : o.IsOrdered) (m : Mode) (place : Nat) :
    (o.turnMode m place).IsOrdered := ⟨h.earlier, List.forall_mem_cons.2 ⟨nofun, h.parts⟩⟩

theorem IsOrdered.branch (h : o.IsOrdered) (place : Nat) : (o.branch place).IsOrdered :=
  ⟨List.forall_mem_cons.2 ⟨h.alternative place, h.earlier⟩, nofun⟩

theorem IsOrdered.repeated? (h : o.IsOrdered) {r : Repetition}
    (hr : ∀ most ∈ r.most, r.least ≤ most) {stop : Nat} {o' : OpenGroup}
    (ho' : o.repeated? r stop = some o') : o'.IsOrdered := by
  obtain ⟨last, hlast, hrest⟩ := Option.bind_eq_some_iff.1 ho'
  obtain ⟨part, hpart, hrest⟩ := Option.bind_eq_some_iff.1 hrest
  cases hrest
  obtain ⟨meaning, hmeaning, rfl⟩ := Option.map_eq_some_iff.1 hpart
  have hmem : last ∈ o.parts := List.mem_of_head? hlast
  refine ⟨h.earlier, List.forall_mem_cons.2 ⟨fun q hq => ?_, fun part hm =>
    h.parts part (List.mem_of_mem_tail hm)⟩⟩
  cases meaning with
  | error e => cases hq
  | ok q' =>
    cases hq
    exact ⟨h.parts last hmem q' hmeaning, hr⟩

end OpenGroup

/-! ## Single parts and repetitions -/

theorem isOrdered_of_map_one {meaning : Meaning CharSet} (h : meaning.map one = .ok p) :
    p.IsOrdered := by
  obtain ⟨set, -, rfl⟩ := map_eq_ok_iff.1 h
  trivial

theorem isOrdered_ofAtom {start stop : Cursor} {atom : Atom}
    (h : ofAtom m start stop atom = .ok p) : p.IsOrdered := by
  cases atom with
  | char d twoDigits => exact isOrdered_of_map_one h
  | set s => exact isOrdered_of_map_one h
  | edge e =>
    cases h
    trivial

/-- A part that is no group and no repetition stands for a set or an edge. -/
theorem isOrdered_of_readPart {first : Char} {part : Part} {stop : Cursor}
    (h : readPart m c first = .ok (part, stop)) : part.IsOrdered := by
  intro q hq
  unfold readPart at h
  split at h
  · obtain ⟨⟨members, stop'⟩, -, h⟩ := bind_eq_ok_iff.1 h
    cases h
    exact isOrdered_of_map_one (Option.some.inj hq)
  · obtain ⟨⟨atom, stop'⟩, -, h⟩ := bind_eq_ok_iff.1 h
    cases h
    exact isOrdered_ofAtom (Option.some.inj hq)
  · cases h
    exact isOrdered_of_map_one (Option.some.inj hq)
  · cases h
    cases hq
    trivial
  · cases h
    cases hq
    trivial
  · cases h
    exact isOrdered_ofAtom (Option.some.inj hq)

/-- Numbers in braces that are read ask for no more parts than they allow. -/
theorem Repetition.least_le_of_read {r : Repetition} {stop : Cursor}
    (h : Repetition.read m c = .ok (r, stop)) : ∀ most ∈ r.most, r.least ≤ most := by
  simp only [Repetition.read] at h
  split at h
  · cases h
  · obtain ⟨⟨r', close⟩, -, h⟩ := bind_eq_ok_iff.1 h
    simp only at h
    split at h
    · cases h
    · split at h
      · cases h
      · next hany =>
        cases h
        intro most hmost
        rw [Option.mem_def.1 hmost, Option.any_some, decide_eq_true_eq] at hany
        exact Nat.le_of_not_lt hany

theorem least_le_of_readRepetition? {sign : Char} {r : Repetition} {stop : Cursor}
    (h : readRepetition? m c sign = some (.ok (r, stop))) : ∀ most ∈ r.most, r.least ≤ most := by
  unfold readRepetition? at h
  split at h
  · exact Repetition.least_le_of_read (Option.some.inj h)
  · obtain ⟨r', hr', h⟩ := Option.map_eq_some_iff.1 h
    cases h
    unfold Repetition.ofSign? at hr'
    split at hr' <;> cases hr' <;> simp

/-! ## Groups that are read -/

/-- Each step keeps what has been read ordered, so what comes out in the end is ordered. -/
theorem isOrdered_of_readOpenGroups {steps : Nat} {names : List GroupName} {o : OpenGroup}
    {outer : List OpenGroup} {meaning : Meaning Pattern} {nesting : Nesting}
    (ho : o.IsOrdered) (houter : ∀ o ∈ outer, o.IsOrdered)
    (h : readOpenGroups steps names o outer c = .ok (meaning, nesting)) :
    ∀ p, meaning = .ok p → p.IsOrdered := by
  induction steps generalizing names o outer c with
  | zero => cases h
  | succ steps ih =>
    unfold readOpenGroups at h
    simp only at h
    split at h
    · -- the end of the text
      have hvalue := congrArg Prod.fst (Except.ok.inj h)
      exact fun p hp => ho.value (hvalue.trans hp)
    · cases h
    · -- a group begins
      obtain ⟨⟨opening, stop⟩, -, h⟩ := bind_eq_ok_iff.1 h
      have hopen := List.forall_mem_cons.2 ⟨ho, houter⟩
      cases opening with
      | noted name => exact ih (OpenGroup.isOrdered_new ..) hopen h
      | plain mode => exact ih (OpenGroup.isOrdered_new ..) hopen h
      | turn mode => exact ih (ho.turnMode ..) houter h
    · cases h
    · -- a group ends
      obtain ⟨hp, houter⟩ := List.forall_mem_cons.1 houter
      exact ih (hp.addGroup ho _) houter h
    · exact ih (ho.branch _) houter h
    · split at h
      · obtain ⟨⟨part, stop⟩, hpart, h⟩ := bind_eq_ok_iff.1 h
        exact ih (ho.add (isOrdered_of_readPart hpart)) houter h
      · next reading hreading =>
        split at h
        · cases h
        · obtain ⟨⟨r, stop⟩, rfl, h⟩ := bind_eq_ok_iff.1 h
          have hr := least_le_of_readRepetition? hreading
          refine ih ?_ houter h
          cases hrep : o.repeated? r stop.position with
          | none => exact ho
          | some o' => exact ho.repeated? hr hrep

/-- A pattern that was read asks for no more parts of a repetition than it allows. -/
theorem isOrdered_of_ofText {text : List Char} (h : ofText text = .ok p) : p.IsOrdered := by
  unfold ofText at h
  obtain ⟨⟨meaning, nesting⟩, hread, h⟩ := bind_eq_ok_iff.1 h
  obtain ⟨-, -, h⟩ := bind_eq_ok_iff.1 h
  obtain ⟨q, hq, h⟩ := bind_eq_ok_iff.1 h
  have hordered : q.IsOrdered :=
    isOrdered_of_readOpenGroups (OpenGroup.isOrdered_new ..) (List.forall_mem_nil _) hread q hq
  split at h
  · cases h
  · split at h
    · cases h
    · cases h
      exact hordered

end Pattern

/-! ## Settings that are read -/

namespace Log

theorem Filter.pattern_ofDirectives (ds : List Directive) (pattern : Option Pattern) :
    (ofDirectives ds pattern).pattern = pattern := by
  unfold ofDirectives
  split <;> rfl

/-- The pattern of a setting was read from the text behind the slash. -/
theorem Setting.ofText_of_pattern {text pattern : List Char} {p : Pattern}
    (h : (ofParts text (some pattern)).filter.pattern = some p) :
    Pattern.ofText pattern = .ok p := by
  rw [ofParts, Filter.pattern_ofDirectives] at h
  cases hread : Pattern.ofText pattern with
  | error e =>
    rw [Option.map_some, hread] at h
    cases h
  | ok q =>
    rw [Option.map_some, hread] at h
    cases h
    rfl

theorem Setting.isOrdered_of_pattern {text : String} {p : Pattern}
    (h : (ofText text).filter.pattern = some p) : p.IsOrdered := by
  unfold ofText at h
  split at h
  · cases (Filter.pattern_ofDirectives ..).symm.trans h
  · exact Pattern.isOrdered_of_ofText (ofText_of_pattern h)
  · cases (Filter.pattern_ofDirectives ..).symm.trans h

/-- A setting that was read shows a record just if the directive that decides on its target shows
its level, and its message has a part that fits the pattern if there is one. -/
theorem Setting.shows_ofText_iff (text : String) (r : Record) :
    (ofText text).filter.shows r = true ↔
      (∃ d, Directive.decisive? r.target (ofText text).filter.directives = some d ∧
        d.threshold.shows r.level = true) ∧
      ∀ p, (ofText text).filter.pattern = some p → ∃ front part behind,
        r.message.toList = front ++ part ++ behind ∧ p.Fits front.getLast? part behind := by
  rw [Filter.shows, Bool.and_eq_true, Option.any_eq_true, Option.all_eq_true]
  refine and_congr Iff.rfl (forall_congr' fun p => forall_congr' fun hp => ?_)
  exact Pattern.isFoundIn_iff (isOrdered_of_pattern hp)

end Log

end TypeLattice
