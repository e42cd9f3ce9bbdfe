import TypeLattice.Log.Setting
import TypeLattice.Proofs.Text.Trim

/-!
# Settings that name a level

A setting may be just the name of a threshold, in capitals or not and with blanks around it. It
treats all targets alike, and has nothing to complain about. The log of such a setting shows all
records of a level or none.

Results:

* `LevelName.setting_eq`: the setting with that name is its threshold;
* `Setting.text_ofThreshold`: the log of records of one level;
* `Threshold.shows_debug_iff`: the thresholds that show the records of the program.
-/
namespace TypeLattice.Log

namespace Threshold

theorem exists_named_of_ofName? {s : List Char} {t : Threshold} (h : ofName? s = some t) :
    ∃ name, (name, t) ∈ named ∧ name.toList = s.map Char.toLower := by
  obtain ⟨⟨name, t'⟩, hf, rfl⟩ := Option.map_eq_some_iff.1 h
  exact ⟨name, List.mem_of_find?_eq_some hf, by simpa using List.find?_some hf⟩

/-- A character that is no letter stands in no name. -/
theorem not_mem_of_ofName? {s : List Char} {t : Threshold} (h : ofName? s = some t) {c : Char}
    (hc : c.toLower = c) (hn : named.any (fun (name, _) => name.toList.contains c) = false) :
    c ∉ s := by
  intro hm
  obtain ⟨name, hname, hs⟩ := exists_named_of_ofName? h
  have hmem : c ∈ name.toList := by
    rw [hs]
    exact List.mem_map.2 ⟨c, hm, hc⟩
  have := List.any_eq_false.1 hn _ hname
  simp [hmem] at this

theorem shows_debug_iff {t : Threshold} :
    t.shows .debug = true ↔ t = .upTo .debug ∨ t = .upTo .trace := by
  rcases t with _ | level
  · decide
  · cases level <;> decide

end Threshold

/-! ## Names as settings -/

/-- A text that names a threshold. -/
structure LevelName where
  text : String
  threshold : Threshold
  named : Threshold.ofName? (Text.trim text.toList) = some threshold

namespace LevelName

/-- What is set by the name. -/
def setting (name : LevelName) : Setting := .ofText name.text

theorem not_mem (name : LevelName) {c : Char} (hb : Text.isBlank c = false)
    (hc : c.toLower = c)
    (hn : Threshold.named.any (fun (name, _) => name.toList.contains c) = false) :
    c ∉ name.text.toList := by
  obtain ⟨w, v, hs⟩ := Text.exists_blanks_trim name.text.toList
  have outside : ∀ w : Text.Blanks, c ∉ w.chars := by
    intro w hm
    have := List.all_eq_true.1 w.blank c hm
    simp [hb] at this
  have inside := Threshold.not_mem_of_ofName? name.named hc hn
  rw [hs]
  simp [outside, inside]

theorem directive (name : LevelName) :
    Directive.ofText (Text.trim name.text.toList) = .ok ⟨none, name.threshold⟩ := by
  have hequals : '=' ∉ Text.trim name.text.toList :=
    Threshold.not_mem_of_ofName? name.named rfl rfl
  rw [Directive.ofText, List.splitOn_eq_singleton hequals]
  simp only [name.named]

theorem directives (name : LevelName) :
    Setting.directives name.text.toList = [.ok ⟨none, name.threshold⟩] := by
  have hcomma : ',' ∉ name.text.toList := name.not_mem rfl rfl rfl
  have hne : Text.trim name.text.toList ≠ [] := by
    intro h
    have hnamed := name.named
    rw [h] at hnamed
    cases hnamed
  rw [Setting.directives, List.splitOn_eq_singleton hcomma]
  simp [hne, name.directive]

/-- The name of a threshold sets it for all targets. -/
theorem setting_eq (name : LevelName) : name.setting = .ofThreshold name.threshold := by
  have hslash : '/' ∉ name.text.toList := name.not_mem rfl rfl rfl
  rw [setting, Setting.ofText, List.splitOn_eq_singleton hslash]
  simp [Setting.ofParts, name.directives, Setting.error?, Except.toOption,
    Filter.ofDirectives, Directive.put, Setting.ofThreshold, Filter.ofThreshold]

end LevelName

/-! ## Logs -/

/-- The records of one level are shown all or not at all. -/
theorem Setting.text_ofThreshold (t : Threshold) {level : Level} {records : List Record}
    (h : ∀ r ∈ records, r.level = level) : (ofThreshold t).text records =
      if t.shows level then String.join (records.map Record.text) else "" := by
  have hshows : ∀ r ∈ records, (ofThreshold t).filter.shows r = t.shows level := by
    intro r hr
    rw [ofThreshold, Filter.shows_ofThreshold, h r hr]
  cases hl : t.shows level with
  | false =>
    have hnone : records.filter (ofThreshold t).filter.shows = [] :=
      List.filter_eq_nil_iff.2 fun r hr => by rw [hshows r hr, hl]; exact Bool.false_ne_true
    rw [text, Filter.text, hnone]
    rfl
  | true =>
    have hall : records.filter (ofThreshold t).filter.shows = records :=
      List.filter_eq_self.2 fun r hr => by rw [hshows r hr, hl]
    rw [text, Filter.text, hall]
    exact String.empty_append

end TypeLattice.Log
