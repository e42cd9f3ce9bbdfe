import TypeLattice.Pattern.Parser

/-!
# Reading goes forward

Every reader stops at a place further on in the text, or fails. So a reader that is given as many
steps as there are characters, and one more, never runs out of them: it makes no difference how
many more it is given.

Results:

* `Cursor.Reaches`: a place is not before another, with one lemma for each reader;
* `readOpenSets_steps`, `readOpenGroups_steps`: enough steps are as good as more;
* `ofText_eq_of_lt`: reading a pattern does not depend on the number of steps.
-/
namespace TypeLattice.Pattern

/-! ## Results that are no errors -/

theorem bind_eq_ok_iff {ε α β : Type} {x : Except ε α} {f : α → Except ε β} {b : β} :
    x >>= f = .ok b ↔ ∃ a, x = .ok a ∧ f a = .ok b := by
  cases x <;> simp [bind, Except.bind]

theorem map_eq_ok_iff {ε α β : Type} {x : Except ε α} {f : α → β} {b : β} :
    x.map f = .ok b ↔ ∃ a, x = .ok a ∧ f a = b := by
  cases x <;> simp [Except.map]

theorem bind_congr_ok {ε α β : Type} {x : Except ε α} {f g : α → Except ε β}
    (h : ∀ a, x = .ok a → f a = g a) : x >>= f = x >>= g := by
  cases x with
  | error e => rfl
  | ok a => exact h a rfl

variable {m : Mode} {c d : Cursor}

/-! ## Places -/

namespace Cursor

/-- The second place is the first one or further on. -/
def Reaches (c d : Cursor) : Prop := d.rest <:+ c.rest

@[refl]
theorem Reaches.refl (c : Cursor) : c.Reaches c := List.suffix_refl c.rest

theorem Reaches.trans {e : Cursor} (h : c.Reaches d) (h' : d.Reaches e) : c.Reaches e :=
  List.IsSuffix.trans h' h

theorem reaches_next (c : Cursor) : c.Reaches c.next := List.tail_suffix c.rest

theorem reaches_forward (n : Nat) (c : Cursor) : c.Reaches (c.forward n) :=
  List.drop_suffix n c.rest

theorem reaches_of_after? {part : String} (h : c.after? part = some d) : c.Reaches d := by
  obtain ⟨rest, hrest, rfl⟩ := Option.map_eq_some_iff.1 h
  exact ⟨part.toList, (Text.after?_eq_some_iff.1 hrest).symm⟩

theorem collectFrom_suffix (isMember : Char → Bool) (spaced inside : Bool) (n : Nat)
    (s : List Char) : (collectFrom isMember spaced inside n s).2.rest <:+ s := by
  induction s generalizing inside n with
  | nil => cases inside <;> exact List.suffix_refl []
  | cons c s ih =>
    have hlater (inside : Bool) :
        (collectFrom isMember spaced inside (n + 1) s).2.rest <:+ c :: s :=
      (ih inside (n + 1)).trans (List.suffix_cons c s)
    cases inside with
    | true => exact hlater _
    | false =>
      rw [collectFrom]
      split
      · exact hlater _
      · split
        · exact hlater _
        · exact List.suffix_refl (c :: s)

theorem reaches_collect (m : Mode) (isMember : Char → Bool) (c : Cursor) :
    c.Reaches (c.collect m isMember).2 := collectFrom_suffix ..

theorem reaches_skip (m : Mode) (c : Cursor) : c.Reaches (c.skip m) := reaches_collect ..

/-- Behind a character fewer are left. -/
theorem Reaches.length_lt {a : Char} (h : c.next.Reaches d) (hc : c.peek? = some a) :
    d.rest.length < c.rest.length := by
  have hle : d.rest.length ≤ c.rest.tail.length := List.IsSuffix.length_le h
  obtain ⟨s, hs⟩ := List.head?_eq_some_iff.1 hc
  rw [hs, List.tail_cons] at hle
  rw [hs, List.length_cons]
  omega

theorem Reaches.length_le (h : c.Reaches d) : d.rest.length ≤ c.rest.length :=
  List.IsSuffix.length_le h

end Cursor

open Cursor

/-! ## Escapes -/

namespace Atom

variable {atom : Atom}

theorem reaches_of_readDigits {n : Nat} {digits : List Char}
    (h : readDigits m n c = .ok (digits, d)) : c.Reaches d := by
  induction n generalizing c digits with
  | zero =>
    cases h
    exact Reaches.refl _
  | succ n ih =>
    unfold readDigits at h
    split at h
    · cases h
    · split at h
      · obtain ⟨⟨later, stop⟩, hlater, h⟩ := bind_eq_ok_iff.1 h
        cases h
        exact (reaches_next c).trans ((reaches_skip m _).trans (ih hlater))
      · cases h

theorem reaches_of_readNumbered {width : Nat} (h : readNumbered m width c = .ok (atom, d)) :
    c.Reaches d := by
  simp only [readNumbered] at h
  split at h
  · have hclose : c.Reaches (c.next.collect m fun c => (hexDigit? c).isSome).2 :=
      (reaches_next c).trans (reaches_collect ..)
    have hstop := hclose.trans ((reaches_next _).trans (reaches_skip m _))
    repeat' split at h
    all_goals cases h
    exact hstop
  · obtain ⟨⟨digits, stop⟩, hdigits, h⟩ := bind_eq_ok_iff.1 h
    have hstop := reaches_of_readDigits hdigits
    simp only at h
    split at h <;> cases h
    exact hstop

theorem reaches_of_readProperty {name : Cursor} (h : readProperty m c name = .ok (atom, d)) :
    name.Reaches d := by
  simp only [readProperty] at h
  split at h
  · cases h
  · cases h
  · split at h <;> cases h
    exact (reaches_next name).trans ((reaches_collect ..).trans (reaches_next _))
  · cases h
    exact (reaches_next name).trans (reaches_skip m _)

theorem reaches_of_readWordEdge {brace : Cursor} (h : readWordEdge m c brace = .ok (atom, d)) :
    brace.Reaches d := by
  simp only [readWordEdge] at h
  have hname : brace.Reaches (brace.next.skip m) := (reaches_next brace).trans (reaches_skip m _)
  split at h
  · cases h
    exact Reaches.refl _
  · split at h
    · cases h
    · split at h
      · cases h
        exact Reaches.refl _
      · split at h
        · cases h
        · split at h <;> cases h
          exact hname.trans ((reaches_collect ..).trans (reaches_next _))

theorem reaches_of_readEscape (h : readEscape m c = .ok (atom, d)) : c.next.Reaches d := by
  have hstop : c.next.Reaches c.next.next := reaches_next c.next
  simp only [readEscape] at h
  split at h
  · cases h
  · split at h
    · cases h
    · split at h
      · cases h
        exact hstop
      · split at h
        · exact hstop.trans ((reaches_skip m _).trans (reaches_of_readNumbered h))
        · exact hstop.trans ((reaches_skip m _).trans (reaches_of_readNumbered h))
        · exact hstop.trans ((reaches_skip m _).trans (reaches_of_readNumbered h))
        · exact hstop.trans ((reaches_skip m _).trans (reaches_of_readProperty h))
        · exact hstop.trans ((reaches_skip m _).trans (reaches_of_readProperty h))
        · exact hstop.trans (reaches_of_readWordEdge h)
        · split at h <;> cases h <;> exact hstop

end Atom

/-! ## Sets in brackets -/

theorem reaches_of_readMember {atom : Atom} (h : readMember m c = .ok (atom, d)) :
    c.next.Reaches d := by
  unfold readMember at h
  split at h
  · exact Atom.reaches_of_readEscape h
  · cases h
    exact Reaches.refl _
  · cases h

theorem reaches_of_readMembers {o : OpenSet} {members : Members}
    (h : readMembers m o c = .ok (members, d)) : c.next.Reaches d := by
  obtain ⟨⟨low, lowStop⟩, hlow, h⟩ := bind_eq_ok_iff.1 h
  have hsign := (reaches_of_readMember hlow).trans (reaches_skip m lowStop)
  have hhigh := hsign.trans ((reaches_next _).trans (reaches_skip m _))
  simp only at h
  split at h
  · cases h
  · split at h
    · split at h <;> cases h <;> exact hsign
    · split at h
      · cases h
      · obtain ⟨⟨top, stop⟩, htop, h⟩ := bind_eq_ok_iff.1 h
        have hstop := hhigh.trans ((reaches_next _).trans (reaches_of_readMember htop))
        obtain ⟨⟨first, lowMeaning⟩, -, h⟩ := bind_eq_ok_iff.1 h
        obtain ⟨⟨last, topMeaning⟩, -, h⟩ := bind_eq_ok_iff.1 h
        simp only at h
        split at h <;> cases h
        exact hstop

theorem reaches_of_readNamedSet? {members : Members}
    (h : readNamedSet? m c = some (members, d)) : c.next.Reaches d := by
  obtain ⟨name, hname, h⟩ := Option.bind_eq_some_iff.1 h
  obtain ⟨s, -, h⟩ := Option.bind_eq_some_iff.1 h
  obtain ⟨stop, hstop, h⟩ := Option.bind_eq_some_iff.1 h
  cases h
  have hopen : c.next.Reaches name := by
    obtain ⟨rest, hrest, rfl⟩ := Option.map_eq_some_iff.1 hname
    have hs : c.rest = '[' :: ':' :: rest := Text.after?_eq_some_iff.1 hrest
    have htail : c.rest.tail = ':' :: rest := by rw [hs, List.tail_cons]
    exact ⟨[':'], htail.symm⟩
  refine hopen.trans (Reaches.trans ?_ ((reaches_forward _ _).trans (reaches_of_after? hstop)))
  split
  · exact reaches_next name
  · exact Reaches.refl name

theorem OpenSet.reaches_readHyphens (m : Mode) (steps : Nat) (a : Members) (c : Cursor) :
    c.Reaches (readHyphens m steps a c).2 := by
  induction steps generalizing a c with
  | zero => exact Reaches.refl c
  | succ steps ih =>
    rw [readHyphens]
    split
    · exact (reaches_next c).trans ((reaches_skip m _).trans (ih _ _))
    · exact Reaches.refl c

theorem OpenSet.reaches_of_read {o : OpenSet} (h : OpenSet.read m c = .ok (o, d)) :
    c.next.Reaches d := by
  have hinner : c.next.Reaches (if (c.next.skip m).peek? = some '^' then
      (c.next.skip m).next.skip m else c.next.skip m) := by
    refine (reaches_skip m _).trans ?_
    split
    · exact (reaches_next _).trans (reaches_skip m _)
    · exact Reaches.refl _
  simp only [OpenSet.read] at h
  generalize (if (c.next.skip m).peek? = some '^' then
    (c.next.skip m).next.skip m else c.next.skip m) = inner at h hinner
  have hplace := hinner.trans
    (reaches_readHyphens m inner.rest.length (.none inner.position) inner)
  split at h
  · cases h
  · split at h
    · split at h <;> cases h
      exact hplace.trans ((reaches_next _).trans (reaches_skip m _))
    · cases h
      exact hplace

theorem reaches_of_readOpenSets {steps : Nat} {o : OpenSet} {outer : List OpenSet}
    {members : Members} (h : readOpenSets m steps o outer c = .ok (members, d)) :
    c.Reaches d := by
  induction steps generalizing o outer c with
  | zero => cases h
  | succ steps ih =>
    have hskip := reaches_skip m c
    unfold readOpenSets at h
    simp only at h
    split at h
    · cases h
    · split at h
      · next hset =>
        exact hskip.trans ((reaches_next _).trans ((reaches_of_readNamedSet? hset).trans (ih h)))
      · obtain ⟨⟨inner, stop⟩, hset, h⟩ := bind_eq_ok_iff.1 h
        exact hskip.trans
          ((reaches_next _).trans ((OpenSet.reaches_of_read hset).trans (ih h)))
    · split at h
      · cases h
        exact hskip.trans (reaches_next _)
      · exact hskip.trans ((reaches_next _).trans (ih h))
    · split at h
      · split at h
        · exact hskip.trans ((reaches_next _).trans ((reaches_next _).trans (ih h)))
        · obtain ⟨⟨more, stop⟩, hmore, h⟩ := bind_eq_ok_iff.1 h
          exact hskip.trans
            ((reaches_next _).trans ((reaches_of_readMembers hmore).trans (ih h)))
      · obtain ⟨⟨more, stop⟩, hmore, h⟩ := bind_eq_ok_iff.1 h
        exact hskip.trans
          ((reaches_next _).trans ((reaches_of_readMembers hmore).trans (ih h)))

/-- A set in brackets has its closing bracket further on. -/
theorem reaches_of_readSet {members : Members} (h : readSet m c = .ok (members, d)) :
    c.next.Reaches d := by
  obtain ⟨⟨o, stop⟩, hopen, h⟩ := bind_eq_ok_iff.1 h
  exact (OpenSet.reaches_of_read hopen).trans (reaches_of_readOpenSets h)

/-- Sets are read in as many steps as there are characters, and one more. -/
theorem readOpenSets_steps {n k : Nat} {o : OpenSet} {outer : List OpenSet}
    (hn : c.rest.length < n) (hk : c.rest.length < k) :
    readOpenSets m n o outer c = readOpenSets m k o outer c := by
  induction n generalizing k o outer c with
  | zero => omega
  | succ n ih =>
    obtain ⟨k, rfl⟩ : ∃ k', k = k' + 1 := ⟨k - 1, by omega⟩
    have hskip := (reaches_skip m c).length_le
    -- behind a character of the text there are fewer than the steps that are left
    have hlater {o' : OpenSet} {outer' : List OpenSet} {d : Cursor} {a : Char}
        (hd : (c.skip m).next.Reaches d) (hpeek : (c.skip m).peek? = some a) :
        readOpenSets m n o' outer' d = readOpenSets m k o' outer' d := by
      have hlt := hd.length_lt hpeek
      exact ih (by omega) (by omega)
    have hpeek {a : Char} {s : List Char} (hs : (c.skip m).rest = a :: s) :
        (c.skip m).peek? = some a := by
      rw [peek?, hs, List.head?_cons]
    unfold readOpenSets
    simp only
    split
    · rfl
    · next hs =>
      split
      · next hset => exact hlater (reaches_of_readNamedSet? hset) (hpeek hs)
      · refine bind_congr_ok fun (inner, stop) hset => ?_
        exact hlater (OpenSet.reaches_of_read hset) (hpeek hs)
    · next hs =>
      split
      · rfl
      · exact hlater (Reaches.refl _) (hpeek hs)
    · next hs =>
      have hmembers : ∀ a : Members × Cursor, readMembers m o (c.skip m) = .ok a →
          readOpenSets m n (o.add a.1) outer a.2 = readOpenSets m k (o.add a.1) outer a.2 :=
        fun (more, stop) hmore => hlater (reaches_of_readMembers hmore) (hpeek hs)
      split
      · split
        · exact hlater (reaches_next _) (hpeek hs)
        · exact bind_congr_ok hmembers
      · exact bind_congr_ok hmembers

/-! ## Groups -/

namespace Opening

variable {opening : Opening} {names : List GroupName}

theorem reaches_of_readName (h : readName names c = .ok (opening, d)) : c.Reaches d := by
  simp only [readName] at h
  split at h
  · cases h
  · split at h
    · cases h
    · split at h <;> cases h
      exact (reaches_forward _ c).trans (reaches_next _)
  · cases h

theorem suffix_of_readModes {seen seen' : List (Char × Nat)} {n : Nat} {s : List Char}
    {m' : Mode} (h : readModes m seen n s = .ok (m', seen', d)) : d.rest <:+ s := by
  induction s generalizing m seen n with
  | nil => cases h
  | cons c s ih =>
    unfold readModes at h
    split at h
    · split at h <;> cases h
      exact List.suffix_refl (c :: s)
    · split at h
      · obtain ⟨-, -, h⟩ := bind_eq_ok_iff.1 h
        exact (ih h).trans (List.suffix_cons c s)
      · split at h
        · cases h
        · obtain ⟨-, -, h⟩ := bind_eq_ok_iff.1 h
          exact (ih h).trans (List.suffix_cons c s)

theorem reaches_of_read (h : Opening.read m names c = .ok (opening, d)) : c.next.Reaches d := by
  have hinner : c.next.Reaches (c.next.skip m) := reaches_skip m _
  simp only [Opening.read] at h
  split at h
  · cases h
  · split at h
    · next name _ hname =>
      obtain ⟨start, -, hstart⟩ := List.exists_of_findSome?_eq_some hname
      exact hinner.trans ((reaches_of_after? hstart).trans (reaches_of_readName h))
    · cases h
      exact hinner
    · next letters _ hletters =>
      split at h
      · cases h
      · obtain ⟨⟨turned, seen, stop⟩, hmodes, h⟩ := bind_eq_ok_iff.1 h
        have hstop : c.next.Reaches stop :=
          hinner.trans ((reaches_of_after? hletters).trans (suffix_of_readModes hmodes))
        simp only at h
        split at h
        · cases h
          exact hstop.trans (reaches_next stop)
        · split at h <;> cases h
          exact hstop.trans (reaches_next stop)

end Opening

/-! ## Repetitions -/

namespace Repetition

variable {r : Repetition}

theorem reaches_readNumber (m : Mode) (c : Cursor) : c.Reaches (readNumber m c).2 :=
  (reaches_collect ..).trans ((reaches_collect ..).trans (reaches_collect ..))

theorem reaches_passPreference (c : Cursor) : c.Reaches (passPreference c) := by
  unfold passPreference
  split
  · exact reaches_next c
  · exact Reaches.refl c

theorem reaches_of_readCounts {start : Cursor} (h : readCounts m start c = .ok (r, d)) :
    c.Reaches d := by
  have hplace := reaches_readNumber m c
  have hlater := hplace.trans ((reaches_next _).trans (reaches_skip m _))
  simp only [readCounts] at h
  split at h
  · cases h
  · split at h
    · obtain ⟨n, -, h⟩ := map_eq_ok_iff.1 h
      cases h
      exact hplace
    · split at h
      · cases h
      · split at h
        · obtain ⟨n, -, h⟩ := map_eq_ok_iff.1 h
          cases h
          exact hlater
        · obtain ⟨n, -, h⟩ := bind_eq_ok_iff.1 h
          obtain ⟨last, -, h⟩ := bind_eq_ok_iff.1 h
          cases h
          exact hlater.trans (reaches_readNumber m _)

theorem reaches_of_read (h : Repetition.read m c = .ok (r, d)) : c.next.Reaches d := by
  simp only [Repetition.read] at h
  split at h
  · cases h
  · obtain ⟨⟨r', close⟩, hcounts, h⟩ := bind_eq_ok_iff.1 h
    have hclose := (reaches_skip m c.next).trans (reaches_of_readCounts hcounts)
    simp only at h
    split at h
    · cases h
    · split at h <;> cases h
      exact hclose.trans
        ((reaches_next close).trans ((reaches_skip m _).trans (reaches_passPreference _)))

end Repetition

theorem reaches_of_readRepetition? {sign : Char} {r : Repetition}
    (h : readRepetition? m c sign = some (.ok (r, d))) : c.next.Reaches d := by
  unfold readRepetition? at h
  split at h
  · exact Repetition.reaches_of_read (Option.some.inj h)
  · obtain ⟨r', -, h⟩ := Option.map_eq_some_iff.1 h
    cases h
    exact Repetition.reaches_passPreference _

/-! ## Whole patterns -/

theorem reaches_of_readPart {first : Char} {part : Part}
    (h : readPart m c first = .ok (part, d)) : c.next.Reaches d := by
  unfold readPart at h
  split at h
  · obtain ⟨⟨members, stop⟩, hset, h⟩ := bind_eq_ok_iff.1 h
    cases h
    exact reaches_of_readSet hset
  · obtain ⟨⟨atom, stop⟩, hatom, h⟩ := bind_eq_ok_iff.1 h
    cases h
    exact Atom.reaches_of_readEscape hatom
  all_goals
    cases h
    exact Reaches.refl _

/-- Groups are read in as many steps as there are characters, and one more. -/
theorem readOpenGroups_steps {n k : Nat} {names : List GroupName} {o : OpenGroup}
    {outer : List OpenGroup} (hn : c.rest.length < n) (hk : c.rest.length < k) :
    readOpenGroups n names o outer c = readOpenGroups k names o outer c := by
  induction n generalizing k names o outer c with
  | zero => omega
  | succ n ih =>
    obtain ⟨k, rfl⟩ : ∃ k', k = k' + 1 := ⟨k - 1, by omega⟩
    have hskip := (reaches_skip o.mode c).length_le
    have hlater {names' : List GroupName} {o' : OpenGroup} {outer' : List OpenGroup} {d : Cursor}
        {a : Char} (hd : (c.skip o.mode).next.Reaches d)
        (hpeek : (c.skip o.mode).peek? = some a) :
        readOpenGroups n names' o' outer' d = readOpenGroups k names' o' outer' d := by
      have hlt := hd.length_lt hpeek
      exact ih (by omega) (by omega)
    unfold readOpenGroups
    simp only
    split
    · rfl
    · rfl
    · next hpeek =>
      refine bind_congr_ok fun (opening, stop) hopening => ?_
      have hstop := Opening.reaches_of_read hopening
      cases opening <;> exact hlater hstop hpeek
    · rfl
    · next hpeek => exact hlater (Reaches.refl _) hpeek
    · next hpeek => exact hlater (Reaches.refl _) hpeek
    · next hpeek _ _ =>
      split
      · refine bind_congr_ok fun (part, stop) hpart => ?_
        exact hlater (reaches_of_readPart hpart) hpeek
      · next hreading =>
        split
        · rfl
        · refine bind_congr_ok fun (r, stop) hr => ?_
          rw [hr] at hreading
          exact hlater (reaches_of_readRepetition? hreading) hpeek

/-- What is read does not depend on the number of steps. -/
theorem ofText_eq_of_lt {text : List Char} {steps : Nat} (h : text.length < steps) :
    ofText text = (do
      let (meaning, nesting) ←
        readOpenGroups steps [] { start := 0, mode := {}, first := 0 } [] ⟨0, text⟩
      nesting.check
      let p ← meaning
      if maxRoom < p.room then .error .tooLarge
      else if ¬p.isKnown then .error .wordsUnknown
      else return p) := by
  unfold ofText
  rw [readOpenGroups_steps (Nat.lt_succ_self text.length) h]

end TypeLattice.Pattern
