import TypeLattice.Table.Lattice

/-!
# Coloured text

A coloured text consists of stretches. A stretch stands for itself, or it has a tone: then the
sequence of its tone stands before it and the reset behind it. As long as no stretch holds an escape
character of its own, the sequences can be told from the text: without them the text is the same in
each palette, and a tone lasts up to the next reset.

Results:

* `visible_textIn`: without its sequences a coloured text is the plain one;
* `resets_textIn`: behind the sequence of a tone comes a reset before any other sequence.
-/
namespace TypeLattice

/-! ## Without the sequences -/

/-- The sequences of the palette. -/
def Palette.sequences (p : Palette) : List (List Char) :=
  [p.blue.toList, p.dim.toList, p.reset.toList]

/-- The characters without the sequences of terminals, which are found from left to right. -/
def visibleChars : List Char → List Char
  | [] => []
  | c :: cs =>
    match Palette.ansi.sequences.find? (·.isPrefixOf (c :: cs)) with
    | some sequence => visibleChars (cs.drop (sequence.length - 1))
    | none => c :: visibleChars cs
termination_by cs => cs.length
decreasing_by all_goals simp only [List.length_drop, List.length_cons]; omega

/-- The text without the sequences of terminals. -/
def visible (text : String) : String := String.ofList (visibleChars text.toList)

theorem visibleChars_sequence {sequence : List Char} (h : sequence ∈ Palette.ansi.sequences)
    (cs : List Char) : visibleChars (sequence ++ cs) = visibleChars cs := by
  simp only [Palette.sequences, List.mem_cons, List.not_mem_nil, or_false] at h
  rcases h with rfl | rfl | rfl
  · show visibleChars ('\x1b' :: '[' :: '3' :: '4' :: 'm' :: cs) = _
    rw [visibleChars]
    rfl
  · show visibleChars ('\x1b' :: '[' :: '2' :: 'm' :: cs) = _
    rw [visibleChars]
    rfl
  · show visibleChars ('\x1b' :: '[' :: '0' :: 'm' :: cs) = _
    rw [visibleChars]
    rfl

theorem visibleChars_append {cs : List Char} (h : '\x1b' ∉ cs) (rest : List Char) :
    visibleChars (cs ++ rest) = cs ++ visibleChars rest := by
  induction cs with
  | nil => rfl
  | cons c cs ih =>
    obtain ⟨hc, hcs⟩ := not_or.1 (mt List.mem_cons.2 h)
    have hnone : Palette.ansi.sequences.find? (·.isPrefixOf (c :: (cs ++ rest))) = none := by
      simp [Palette.sequences, Palette.ansi, List.isPrefixOf, hc]
    rw [List.cons_append, visibleChars, hnone]
    dsimp only
    rw [ih hcs, List.cons_append]

theorem visibleChars_of_not_mem {cs : List Char} (h : '\x1b' ∉ cs) : visibleChars cs = cs := by
  have hvisible := visibleChars_append h []
  rwa [List.append_nil, visibleChars, List.append_nil] at hvisible

theorem visible_append {text : String} (h : '\x1b' ∉ text.toList) (rest : String) :
    visible (text ++ rest) = text ++ visible rest := by
  rw [visible, String.toList_append, visibleChars_append h, String.ofList_append,
    String.ofList_toList]
  rfl

theorem visible_of_not_mem {text : String} (h : '\x1b' ∉ text.toList) : visible text = text := by
  rw [visible, visibleChars_of_not_mem h, String.ofList_toList]

/-! ## Stretches -/

/-- What a part of a table is coloured as. -/
inductive Tone where
  | blue
  | dim
  deriving DecidableEq

/-- The sequence of the tone. -/
def Tone.sequence (p : Palette) : Tone → String
  | blue => p.blue
  | dim => p.dim

/-- A part of a text, perhaps coloured. -/
structure Stretch where
  tone : Option Tone
  text : String

namespace Stretch

/-- The stretch in a palette. -/
def textIn (p : Palette) (s : Stretch) : String :=
  match s.tone with
  | none => s.text
  | some tone => tone.sequence p ++ s.text ++ p.reset

/-- The stretch holds no sequence of its own. -/
def IsClean (s : Stretch) : Prop := '\x1b' ∉ s.text.toList

theorem textIn_plain (s : Stretch) : s.textIn .plain = s.text := by
  obtain ⟨tone, text⟩ := s
  cases tone with
  | none => rfl
  | some tone => cases tone <;> simp [textIn, Tone.sequence, Palette.plain]

theorem visible_textIn_append {s : Stretch} (h : s.IsClean) (rest : String) :
    visible (s.textIn .ansi ++ rest) = s.textIn .plain ++ visible rest := by
  obtain ⟨tone, text⟩ := s
  have hsequence : ∀ sequence : String, sequence.toList ∈ Palette.ansi.sequences →
      ∀ rest, visible (sequence ++ rest) = visible rest := by
    intro sequence hs rest
    rw [visible, String.toList_append, visibleChars_sequence hs]
    rfl
  cases tone with
  | none => exact visible_append h rest
  | some tone =>
    have htone : (tone.sequence .ansi).toList ∈ Palette.ansi.sequences := by
      cases tone <;> simp [Tone.sequence, Palette.sequences]
    have hreset : Palette.ansi.reset.toList ∈ Palette.ansi.sequences := by
      simp [Palette.sequences]
    rw [textIn_plain, textIn, String.append_assoc, String.append_assoc, hsequence _ htone,
      visible_append h, hsequence _ hreset]

end Stretch

/-- The stretches in a palette, one behind the other. -/
def textIn (p : Palette) (stretches : List Stretch) : String :=
  String.join (stretches.map (Stretch.textIn p))

theorem textIn_cons (p : Palette) (s : Stretch) (stretches : List Stretch) :
    textIn p (s :: stretches) = s.textIn p ++ textIn p stretches := String.join_cons

theorem textIn_append (p : Palette) (stretches stretches' : List Stretch) :
    textIn p (stretches ++ stretches') = textIn p stretches ++ textIn p stretches' := by
  rw [textIn, List.map_append, String.join_append]
  rfl

theorem escape_not_mem_textIn_plain {stretches : List Stretch} (h : ∀ s ∈ stretches, s.IsClean) :
    '\x1b' ∉ (textIn .plain stretches).toList := by
  induction stretches with
  | nil => simp [textIn]
  | cons s stretches ih =>
    obtain ⟨hs, hstretches⟩ := List.forall_mem_cons.1 h
    rw [textIn_cons, s.textIn_plain, String.toList_append, List.mem_append, not_or]
    exact ⟨hs, ih hstretches⟩

/-- Without its sequences a coloured text is the plain one. -/
theorem visible_textIn (colored : Bool) {stretches : List Stretch}
    (h : ∀ s ∈ stretches, s.IsClean) :
    visible (textIn (.ofColored colored) stretches) = textIn .plain stretches := by
  cases colored with
  | false => exact visible_of_not_mem (escape_not_mem_textIn_plain h)
  | true =>
    show visible (textIn .ansi stretches) = _
    induction stretches with
    | nil => exact visible_of_not_mem (by simp [textIn])
    | cons s stretches ih =>
      obtain ⟨hs, hstretches⟩ := List.forall_mem_cons.1 h
      rw [textIn_cons, textIn_cons, Stretch.visible_textIn_append hs, ih hstretches]

/-! ## Resets -/

theorem suffix_of_suffix_append {c : Char} {u cs rest : List Char} (hc : c ∉ cs)
    (h : c :: u <:+ cs ++ rest) : c :: u <:+ rest := by
  induction cs with
  | nil => exact h
  | cons d cs ih =>
    obtain ⟨hd, hcs⟩ := not_or.1 (mt List.mem_cons.2 hc)
    rcases List.suffix_cons_iff.1 h with heq | hsuffix
    · exact absurd (List.cons.inj heq).1 hd
    · exact ih hcs hsuffix

namespace Tone

/-- The sequence of the tone for terminals, without its escape character. -/
def command : Tone → List Char
  | blue => ['[', '3', '4', 'm']
  | dim => ['[', '2', 'm']

theorem toList_sequence (tone : Tone) : (tone.sequence .ansi).toList = '\x1b' :: tone.command := by
  cases tone <;> rfl

theorem escape_not_mem_command (tone : Tone) : '\x1b' ∉ tone.command := by
  cases tone <;> decide

theorem command_append_inj {tone tone' : Tone} {cs cs' : List Char}
    (h : tone.command ++ cs = tone'.command ++ cs') : cs = cs' := by
  cases tone with
  | blue =>
    cases tone' with
    | blue => exact List.append_cancel_left h
    | dim => simp [command] at h
  | dim =>
    cases tone' with
    | blue => simp [command] at h
    | dim => exact List.append_cancel_left h

theorem command_append_ne_reset (tone : Tone) (cs rest : List Char) :
    '\x1b' :: (tone.command ++ cs) ≠ Palette.ansi.reset.toList ++ rest := by
  cases tone <;> simp [command, Palette.ansi]

end Tone

theorem exists_reset_of_suffix {stretches : List Stretch} (h : ∀ s ∈ stretches, s.IsClean)
    {tone : Tone} {cs : List Char}
    (hcs : '\x1b' :: (tone.command ++ cs) <:+ (textIn .ansi stretches).toList) :
    ∃ inside rest, cs = inside ++ (Palette.ansi.reset.toList ++ rest) ∧ '\x1b' ∉ inside := by
  induction stretches with
  | nil => simp [textIn] at hcs
  | cons s stretches ih =>
    obtain ⟨hs, hstretches⟩ := List.forall_mem_cons.1 h
    obtain ⟨tone', text⟩ := s
    rw [textIn_cons, String.toList_append] at hcs
    cases tone' with
    | none => exact ih hstretches (suffix_of_suffix_append hs hcs)
    | some tone' =>
      simp only [Stretch.textIn, String.toList_append, tone'.toList_sequence, List.cons_append,
        List.append_assoc] at hcs
      rcases List.suffix_cons_iff.1 hcs with heq | hcs
      · exact ⟨text.toList, _, Tone.command_append_inj (List.cons.inj heq).2, hs⟩
      · -- no sequence begins before the reset, and the reset is none of a tone
        have hcs := suffix_of_suffix_append hs
          (suffix_of_suffix_append tone'.escape_not_mem_command hcs)
        rcases List.suffix_cons_iff.1 hcs with heq | hcs
        · exact absurd heq (tone.command_append_ne_reset _ _)
        · exact ih hstretches (suffix_of_suffix_append (by decide) hcs)

/-- Behind the sequence of a tone comes a reset, before any other sequence. -/
def Resets (text : String) : Prop :=
  ∀ (tone : Tone) (before after : String), text = before ++ tone.sequence .ansi ++ after →
    ∃ inside rest : String, after = inside ++ Palette.ansi.reset ++ rest ∧ '\x1b' ∉ inside.toList

theorem resets_of_not_mem {text : String} (h : '\x1b' ∉ text.toList) : Resets text := by
  rintro tone before after rfl
  simp [tone.toList_sequence] at h

theorem resets_textIn (colored : Bool) {stretches : List Stretch}
    (h : ∀ s ∈ stretches, s.IsClean) :
    Resets (textIn (.ofColored colored) stretches) := by
  cases colored with
  | false => exact resets_of_not_mem (escape_not_mem_textIn_plain h)
  | true =>
    intro tone before after htext
    have hsuffix :
        '\x1b' :: (tone.command ++ after.toList) <:+ (textIn .ansi stretches).toList := by
      have htext : textIn .ansi stretches = before ++ tone.sequence .ansi ++ after := htext
      rw [htext, String.toList_append, String.toList_append, tone.toList_sequence,
        List.append_assoc]
      exact List.suffix_append ..
    obtain ⟨inside, rest, hafter, hinside⟩ := exists_reset_of_suffix h hsuffix
    refine ⟨String.ofList inside, String.ofList rest, ?_, by rwa [String.toList_ofList]⟩
    apply String.toList_injective
    simp [hafter]

end TypeLattice
