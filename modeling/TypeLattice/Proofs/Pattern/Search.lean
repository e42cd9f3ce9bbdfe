import Mathlib.Data.List.Basic
import TypeLattice.Pattern.Basic

/-!
# What a pattern fits

`Pattern.Fits` says which parts of a text a pattern stands for, without saying how they are found.
As places look at their neighbours, it is told the character before the part and the text behind
it. The search reads the text once and keeps what is left to find of the pattern; it finds
something exactly if some part fits.

A repetition of parts that may be empty needs no more parts than it has: those that are missing
are put in front, where they are empty. So the search may forget how many are missing, as long as
no repetition asks for more parts than it allows.

Results:

* `fitsEmpty_iff`, `fits_cons_iff`: the empty part, and a part that begins with a character;
* `isFoundIn_iff`: the search finds something exactly if some part of the text fits.
-/
namespace TypeLattice.Pattern

/-- The character before what follows, once `s` has been read behind `last`. -/
def lastOf (last : Option Char) (s : List Char) : Option Char := s.getLast?.or last

@[simp]
theorem lastOf_nil (last : Option Char) : lastOf last [] = last := rfl

@[simp]
theorem lastOf_cons (last : Option Char) (c : Char) (s : List Char) :
    lastOf last (c :: s) = lastOf (some c) s := by
  rw [lastOf, lastOf, List.getLast?_cons]
  cases s.getLast? <;> rfl

/-! ## Parts of a text -/

/-- So many parts of a sort in a row. -/
def InRow (fits : Option Char → List Char → List Char → Prop) :
    Nat → Option Char → List Char → List Char → Prop
  | 0, _, part, _ => part = []
  | n + 1, last, part, behind => ∃ s t, part = s ++ t ∧ fits last s (t ++ behind) ∧
      InRow fits n (lastOf last s) t behind

/-- The pattern stands for the part, which stands between a character and the rest of a text. -/
def Fits : Pattern → Option Char → List Char → List Char → Prop
  | empty, _, part, _ => part = []
  | one set, _, part, _ => ∃ c, set.contains c = true ∧ part = [c]
  | edge e, last, part, behind => part = [] ∧ e.holdsAt ⟨last, behind.head?⟩ = true
  | next p q, last, part, behind => ∃ s t, part = s ++ t ∧ p.Fits last s (t ++ behind) ∧
      q.Fits (lastOf last s) t behind
  | either p q, last, part, behind => p.Fits last part behind ∨ q.Fits last part behind
  | times p least most, last, part, behind => ∃ n, least ≤ n ∧ (∀ m ∈ most, n ≤ m) ∧
      InRow p.Fits n last part behind
  | group p, last, part, behind => p.Fits last part behind

/-- No repetition asks for more parts than it allows. -/
def IsOrdered : Pattern → Prop
  | empty | one _ | edge _ => True
  | next p q | either p q => p.IsOrdered ∧ q.IsOrdered
  | times p least most => p.IsOrdered ∧ ∀ m ∈ most, least ≤ m
  | group p => p.IsOrdered

variable {p q : Pattern} {last : Option Char} {c : Char} {s part behind : List Char}

/-! ## Rows -/

section Rows

variable {fits : Option Char → List Char → List Char → Prop} {n : Nat}

/-- Empty parts may be put in front of a row. -/
theorem InRow.add (h : InRow fits n last part behind) (hempty : fits last [] (part ++ behind))
    (k : Nat) : InRow fits (n + k) last part behind := by
  induction k with
  | zero => exact h
  | succ k ih => exact ⟨[], part, rfl, hempty, ih⟩

theorem fits_empty_of_inRow (h : InRow fits (n + 1) last [] behind) : fits last [] behind := by
  obtain ⟨s, t, hst, hfits, -⟩ := h
  obtain ⟨rfl, rfl⟩ := List.nil_eq_append_iff.1 hst
  exact hfits

/-- A row that begins with a character: the parts before it are empty. -/
theorem inRow_cons (h : InRow fits n last (c :: part) behind) :
    ∃ k m s t, n = m + 1 + k ∧ (k ≠ 0 → fits last [] (c :: part ++ behind)) ∧ part = s ++ t ∧
      fits last (c :: s) (t ++ behind) ∧ InRow fits m (lastOf (some c) s) t behind := by
  induction n with
  | zero => cases h
  | succ n ih =>
    obtain ⟨s, t, hst, hfits, hrow⟩ := h
    cases s with
    | nil =>
      rw [List.nil_append] at hst
      subst hst
      obtain ⟨k, m, s, t, hn, -, hrest⟩ := ih hrow
      exact ⟨k + 1, m, s, t, by omega, fun _ => hfits, hrest⟩
    | cons d s =>
      obtain ⟨rfl, rfl⟩ := List.cons_eq_cons.1 hst
      rw [lastOf_cons] at hrow
      exact ⟨0, n, s, t, rfl, nofun, rfl, hfits, hrow⟩

end Rows

/-! ## The empty part -/

/-- The empty part at a place is looked for there. -/
theorem fitsEmpty_iff (h : p.IsOrdered) :
    p.fitsEmpty ⟨last, behind.head?⟩ = true ↔ p.Fits last [] behind := by
  induction p generalizing last behind with
  | empty => simp [fitsEmpty, Fits]
  | one set => simp [fitsEmpty, Fits]
  | edge e => simp [fitsEmpty, Fits]
  | next p q ihp ihq =>
    rw [fitsEmpty, Bool.and_eq_true, ihp h.1, ihq h.2]
    constructor
    · exact fun ⟨hp, hq⟩ => ⟨[], [], rfl, hp, hq⟩
    · rintro ⟨s, t, hst, hp, hq⟩
      obtain ⟨rfl, rfl⟩ := List.nil_eq_append_iff.1 hst
      exact ⟨hp, hq⟩
  | either p q ihp ihq => simp [fitsEmpty, Fits, ihp h.1, ihq h.2]
  | group p ih => exact ih h
  | times p least most ih =>
    simp only [fitsEmpty, Bool.or_eq_true, decide_eq_true_eq, ih h.1]
    constructor
    · rintro (rfl | hp)
      · exact ⟨0, Nat.le_refl 0, fun m _ => Nat.zero_le m, rfl⟩
      · have hrow : InRow p.Fits 0 last [] behind := rfl
        have hrow := hrow.add hp least
        rw [Nat.zero_add] at hrow
        exact ⟨least, Nat.le_refl least, h.2, hrow⟩
    · rintro ⟨n, hleast, -, hrow⟩
      cases n with
      | zero => exact .inl (Nat.le_zero.1 hleast)
      | succ n => exact .inr (fits_empty_of_inRow hrow)

theorem fitsEmpty_cons_iff (h : p.IsOrdered) :
    p.fitsEmpty ⟨last, some c⟩ = true ↔ p.Fits last [] (c :: s) :=
  (fitsEmpty_iff h : p.fitsEmpty ⟨last, (c :: s).head?⟩ = true ↔ _)

/-! ## A part that begins with a character -/

theorem fits_before : (before q p).Fits last part behind ↔ (next p q).Fits last part behind := by
  unfold before
  split
  · constructor
    · exact fun h => ⟨[], part, rfl, rfl, h⟩
    · rintro ⟨s, t, rfl, rfl, h⟩
      exact h
  · constructor
    · exact fun h => ⟨part, [], (List.append_nil part).symm, h, rfl⟩
    · rintro ⟨s, t, rfl, h, rfl⟩
      rwa [List.append_nil]
  · rfl

/-- One of the patterns and then the other, left to be found or found at once. -/
theorem exists_mem_map_before {ps : List Pattern} :
    (∃ r ∈ ps.map (before q), r.Fits last part behind) ↔ ∃ s t, part = s ++ t ∧
      (∃ r ∈ ps, r.Fits last s (t ++ behind)) ∧ q.Fits (lastOf last s) t behind := by
  constructor
  · rintro ⟨r, hr, h⟩
    obtain ⟨p, hp, rfl⟩ := List.mem_map.1 hr
    obtain ⟨s, t, rfl, hs, ht⟩ := fits_before.1 h
    exact ⟨s, t, rfl, ⟨p, hp, hs⟩, ht⟩
  · rintro ⟨s, t, rfl, ⟨p, hp, hs⟩, ht⟩
    exact ⟨_, List.mem_map_of_mem hp, fits_before.2 ⟨s, t, rfl, hs, ht⟩⟩

theorem isOrdered_before (hp : p.IsOrdered) (hq : q.IsOrdered) : (before q p).IsOrdered := by
  unfold before
  split
  · exact hq
  · exact hp
  · exact ⟨hp, hq⟩

/-- What is left of a pattern asks for no more parts than it allows. -/
theorem isOrdered_of_mem_after {g : Gap} (h : p.IsOrdered) :
    ∀ r ∈ p.after g c, r.IsOrdered := by
  induction p with
  | empty | edge e => exact nofun
  | one set =>
    intro r hr
    rw [after] at hr
    split at hr
    · rw [List.mem_singleton.1 hr]
      trivial
    · cases hr
  | next p q ihp ihq =>
    intro r hr
    rw [after, List.mem_append, List.mem_map] at hr
    obtain ⟨p', hp', rfl⟩ | hr := hr
    · exact isOrdered_before (ihp h.1 p' hp') h.2
    · split at hr
      · exact ihq h.2 r hr
      · cases hr
  | either p q ihp ihq =>
    intro r hr
    rcases List.mem_append.1 hr with hr | hr
    · exact ihp h.1 r hr
    · exact ihq h.2 r hr
  | group p ih => exact ih h
  | times p least most ih =>
    intro r hr
    rw [after] at hr
    split at hr
    · cases hr
    · obtain ⟨p', hp', rfl⟩ := List.mem_map.1 hr
      refine isOrdered_before (ih h.1 p' hp') ⟨h.1, fun m hm => ?_⟩
      obtain ⟨m', hm', rfl⟩ := Option.map_eq_some_iff.1 hm
      have hle := h.2 m' hm'
      split <;> omega

theorem fits_next_cons (h : p.IsOrdered) : (next p q).Fits last (c :: part) behind ↔
    (∃ s t, part = s ++ t ∧ p.Fits last (c :: s) (t ++ behind) ∧
      q.Fits (lastOf (some c) s) t behind) ∨
    p.fitsEmpty ⟨last, some c⟩ = true ∧ q.Fits last (c :: part) behind := by
  constructor
  · rintro ⟨s, t, hst, hp, hq⟩
    rcases List.cons_eq_append_iff.1 hst with ⟨rfl, rfl⟩ | ⟨s, rfl, rfl⟩
    · exact .inr ⟨(fitsEmpty_cons_iff h).2 hp, hq⟩
    · rw [lastOf_cons] at hq
      exact .inl ⟨s, t, rfl, hp, hq⟩
  · rintro (⟨s, t, rfl, hp, hq⟩ | ⟨hp, hq⟩)
    · exact ⟨c :: s, t, rfl, hp, by rwa [lastOf_cons]⟩
    · exact ⟨[], c :: part, rfl, (fitsEmpty_cons_iff h).1 hp, hq⟩

/-- A repetition whose first part with a character in it begins with `c`. If the parts may be empty
there, none are missing. -/
theorem fits_times_cons {least : Nat} {most : Option Nat} (h : (times p least most).IsOrdered) :
    (times p least most).Fits last (c :: part) behind ↔ most ≠ some 0 ∧
      ∃ s t, part = s ++ t ∧ p.Fits last (c :: s) (t ++ behind) ∧
        (times p (if p.fitsEmpty ⟨last, some c⟩ then 0 else least - 1)
          (most.map (· - 1))).Fits (lastOf (some c) s) t behind := by
  constructor
  · rintro ⟨n, hleast, hmost, hrow⟩
    obtain ⟨k, m, s, t, rfl, hk, rfl, hp, hrow⟩ := inRow_cons hrow
    have hbound : ∀ m' ∈ most.map (· - 1), m ≤ m' := by
      intro m' hm'
      obtain ⟨most', hmost', rfl⟩ := Option.map_eq_some_iff.1 hm'
      have := hmost most' hmost'
      omega
    refine ⟨?_, s, t, rfl, hp, m, ?_, hbound, hrow⟩
    · rintro rfl
      have := hmost 0 rfl
      omega
    · split
      · exact Nat.zero_le m
      · next hno =>
        have hk : k = 0 :=
          Decidable.byContradiction fun hne => hno ((fitsEmpty_cons_iff h.1).2 (hk hne))
        omega
  · rintro ⟨hmost, s, t, rfl, hp, m, hleast, hbound, hrow⟩
    have hbound : ∀ m' ∈ most, m + 1 ≤ m' := by
      intro m' hm'
      have := hbound (m' - 1) (Option.map_eq_some_iff.2 ⟨m', hm', rfl⟩)
      have : m' ≠ 0 := by
        rintro rfl
        exact hmost hm'
      omega
    have hrow : InRow p.Fits (m + 1) last (c :: (s ++ t)) behind :=
      ⟨c :: s, t, rfl, hp, by rwa [lastOf_cons]⟩
    split at hleast
    · next hyes =>
      refine ⟨m + 1 + (least - (m + 1)), by omega, fun m' hm' => ?_,
        hrow.add ((fitsEmpty_cons_iff h.1).1 hyes) _⟩
      have := hbound m' hm'
      have := h.2 m' hm'
      omega
    · exact ⟨m + 1, by omega, hbound, hrow⟩

/-- Behind the first character of a part stands what is left of the pattern. -/
theorem fits_cons_iff (h : p.IsOrdered) : p.Fits last (c :: part) behind ↔
    ∃ r ∈ p.after ⟨last, some c⟩ c, r.Fits (some c) part behind := by
  induction p generalizing part behind with
  | empty | edge e => simp [Fits, after]
  | one set =>
    rw [after]
    constructor
    · rintro ⟨d, hd, he⟩
      obtain ⟨rfl, rfl⟩ := List.cons_eq_cons.1 he
      rw [if_pos hd]
      exact ⟨empty, List.mem_singleton_self empty, rfl⟩
    · rintro ⟨r, hr, hfits⟩
      split at hr
      · next hc =>
        obtain rfl := List.mem_singleton.1 hr
        exact ⟨c, hc, congrArg (c :: ·) hfits⟩
      · cases hr
  | group p ih => exact ih h
  | either p q ihp ihq =>
    rw [after, Fits, ihp h.1, ihq h.2]
    simp only [List.mem_append, or_and_right, exists_or]
  | next p q ihp ihq =>
    rw [fits_next_cons h.1, ihq h.2, after]
    simp only [ihp h.1, ← exists_mem_map_before, List.mem_append, or_and_right, exists_or]
    split <;> simp [*]
  | times p least most ih =>
    rw [fits_times_cons h, after]
    simp only [ih h.1, ← exists_mem_map_before]
    by_cases hmost : most = some 0
    · simp [hmost]
    · simp only [hmost, if_false, ne_eq, not_false_eq_true, true_and]

/-! ## The search -/

/-- The pattern fits a part at the front of the text. -/
def FitsFront (p : Pattern) (last : Option Char) (s : List Char) : Prop :=
  ∃ part behind, s = part ++ behind ∧ p.Fits last part behind

theorem fitsFront_nil (h : p.IsOrdered) :
    p.fitsEmpty ⟨last, none⟩ = true ↔ p.FitsFront last [] := by
  have hempty : p.fitsEmpty ⟨last, ([] : List Char).head?⟩ = true ↔ _ := fitsEmpty_iff h
  rw [List.head?_nil] at hempty
  rw [hempty]
  constructor
  · exact fun hfits => ⟨[], [], rfl, hfits⟩
  · rintro ⟨part, behind, hs, hfits⟩
    obtain ⟨rfl, rfl⟩ := List.nil_eq_append_iff.1 hs
    exact hfits

theorem fitsFront_cons (h : p.IsOrdered) :
    (p.fitsEmpty ⟨last, some c⟩ = true ∨
      ∃ r ∈ p.after ⟨last, some c⟩ c, r.FitsFront (some c) s) ↔ p.FitsFront last (c :: s) := by
  constructor
  · rintro (hfits | ⟨r, hr, part, behind, rfl, hfits⟩)
    · exact ⟨[], c :: s, rfl, (fitsEmpty_cons_iff h).1 hfits⟩
    · exact ⟨c :: part, behind, rfl, (fits_cons_iff h).2 ⟨r, hr, hfits⟩⟩
  · rintro ⟨part, behind, hs, hfits⟩
    cases part with
    | nil =>
      rw [List.nil_append] at hs
      subst hs
      exact .inl ((fitsEmpty_cons_iff h).2 hfits)
    | cons d part =>
      obtain ⟨rfl, rfl⟩ := List.cons_eq_cons.1 hs
      obtain ⟨r, hr, hfits⟩ := (fits_cons_iff h).1 hfits
      exact .inr ⟨r, hr, part, behind, rfl, hfits⟩

/-- The pattern fits some part of the text. -/
def FitsIn (p : Pattern) (last : Option Char) (s : List Char) : Prop :=
  ∃ front rest, s = front ++ rest ∧ p.FitsFront (lastOf last front) rest

theorem fitsIn_nil : p.FitsIn last [] ↔ p.FitsFront last [] := by
  constructor
  · rintro ⟨front, rest, hs, hfits⟩
    obtain ⟨rfl, rfl⟩ := List.nil_eq_append_iff.1 hs
    exact hfits
  · exact fun hfits => ⟨[], [], rfl, hfits⟩

theorem fitsIn_cons :
    p.FitsIn last (c :: s) ↔ p.FitsFront last (c :: s) ∨ p.FitsIn (some c) s := by
  constructor
  · rintro ⟨front, rest, hs, hfits⟩
    cases front with
    | nil =>
      rw [List.nil_append] at hs
      subst hs
      exact .inl hfits
    | cons d front =>
      obtain ⟨rfl, rfl⟩ := List.cons_eq_cons.1 hs
      rw [lastOf_cons] at hfits
      exact .inr ⟨front, rest, rfl, hfits⟩
  · rintro (hfits | ⟨front, rest, rfl, hfits⟩)
    · exact ⟨[], c :: s, rfl, hfits⟩
    · exact ⟨c :: front, rest, rfl, by rwa [lastOf_cons]⟩

theorem exists_fitsFront {live : List Pattern} : (∃ q ∈ p :: live, q.FitsFront last s) ↔
    p.FitsFront last s ∨ ∃ q ∈ live, q.FitsFront last s :=
  List.exists_mem_cons_iff _ p live

/-- What one character does: the patterns under way fit where they are, or what is left of them
fits behind it. -/
theorem exists_fitsFront_cons {live : List Pattern} (h : ∀ q ∈ live, q.IsOrdered) :
    (live.any (·.fitsEmpty ⟨last, some c⟩) = true ∨
      ∃ r ∈ (live.flatMap (·.after ⟨last, some c⟩ c)).eraseDups, r.FitsFront (some c) s) ↔
    ∃ q ∈ live, q.FitsFront last (c :: s) := by
  simp only [List.any_eq_true, List.mem_eraseDups, List.mem_flatMap]
  constructor
  · rintro (⟨q, hq, hfits⟩ | ⟨r, ⟨q, hq, hr⟩, hfits⟩)
    · exact ⟨q, hq, (fitsFront_cons (h q hq)).1 (.inl hfits)⟩
    · exact ⟨q, hq, (fitsFront_cons (h q hq)).1 (.inr ⟨r, hr, hfits⟩)⟩
  · rintro ⟨q, hq, hfits⟩
    rcases (fitsFront_cons (h q hq)).2 hfits with hempty | ⟨r, hr, hfits⟩
    · exact .inl ⟨q, hq, hempty⟩
    · exact .inr ⟨r, ⟨q, hq, hr⟩, hfits⟩

/-- The search finds what one of the patterns under way fits at the front, or the first one
anywhere. -/
theorem search_iff {live : List Pattern} (h : ∀ q ∈ p :: live, q.IsOrdered) :
    search p live last s = true ↔ (∃ q ∈ live, q.FitsFront last s) ∨ p.FitsIn last s := by
  induction s generalizing live last with
  | nil =>
    rw [search, fitsIn_nil, List.any_eq_true, or_comm, ← exists_fitsFront]
    exact exists_congr fun q => and_congr_right fun hq => fitsFront_nil (h q hq)
  | cons c s ih =>
    have hp : p.IsOrdered := h p List.mem_cons_self
    have hleft : ∀ r ∈ ((p :: live).flatMap (·.after ⟨last, some c⟩ c)).eraseDups,
        r.IsOrdered := by
      intro r hr
      obtain ⟨q, hq, hr⟩ := List.mem_flatMap.1 (List.mem_eraseDups.1 hr)
      exact isOrdered_of_mem_after (h q hq) r hr
    have hrest := @ih (some c) _ (List.forall_mem_cons.2 ⟨hp, hleft⟩)
    rw [search, Bool.or_eq_true, hrest, ← or_assoc, exists_fitsFront_cons h, exists_fitsFront,
      fitsIn_cons, or_comm (a := p.FitsFront last (c :: s)), or_assoc]

/-- The search finds something in a text just if the pattern fits some part of it. -/
theorem isFoundIn_iff (h : p.IsOrdered) : p.isFoundIn s = true ↔
    ∃ front part behind, s = front ++ part ++ behind ∧ p.Fits front.getLast? part behind := by
  have hlive : ∀ q ∈ [p], q.IsOrdered := List.forall_mem_singleton.2 h
  rw [isFoundIn, search_iff hlive]
  constructor
  · rintro (⟨q, hq, -⟩ | ⟨front, rest, rfl, part, behind, rfl, hfits⟩)
    · cases hq
    · rw [lastOf, Option.or_none] at hfits
      exact ⟨front, part, behind, (List.append_assoc ..).symm, hfits⟩
  · rintro ⟨front, part, behind, rfl, hfits⟩
    refine .inr ⟨front, part ++ behind, List.append_assoc .., part, behind, rfl, ?_⟩
    rwa [lastOf, Option.or_none]

end TypeLattice.Pattern
