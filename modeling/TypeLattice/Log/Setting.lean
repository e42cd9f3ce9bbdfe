import TypeLattice.Log.Filter
import TypeLattice.Pattern.Parser
import TypeLattice.Text.CodePoints

/-!
# Settings of the log

A setting is written as directives between commas, and may end with a slash and a pattern.
A directive is a threshold for all targets, the beginning of the targets that are shown
without exception, or such a beginning, an equals sign and a threshold. A directive that is
none of these is passed over, and so is a pattern that cannot be read.
-/
namespace TypeLattice.Log

/-- Why something in a setting is passed over. -/
inductive SettingError where
  /-- A part has a threshold that is none, or too many equals signs. -/
  | malformed (part : List Char)
  /-- There are several slashes. -/
  | manyPatterns (setting : String)
  /-- The pattern cannot be read. -/
  | pattern (text : List Char) (cause : PatternError)
  deriving DecidableEq, Repr

/-- What is wrong with the setting. -/
def SettingError.message : SettingError → String
  | malformed part => "invalid logging spec '" ++ String.ofList part ++ "'"
  | manyPatterns setting => "invalid logging spec '" ++ setting ++ "' (too many '/'s)"
  | pattern text cause => "invalid regex filter - " ++ cause.message text

/-- Reads a directive without blanks at its ends. -/
def Directive.ofText (text : List Char) : Except SettingError Directive :=
  match text.splitOn '=' with
  | [word] =>
    match Threshold.ofName? word with
    | some t => .ok ⟨none, t⟩
    | none => .ok ⟨some (String.ofList word), .all⟩
  | [start, name] =>
    if Text.trim name = [] then .ok ⟨some (String.ofList start), .all⟩
    else
      match Threshold.ofName? (Text.trim name) with
      | some t => .ok ⟨some (String.ofList start), t⟩
      | none => .error (.malformed (Text.trim name))
  | _ => .error (.malformed text)

/-- What is set for the log, by the environment variable `RUST_LOG` or by a level filter. -/
structure Setting where
  filter : Filter
  /-- What was passed over. -/
  errors : List SettingError := []
  deriving DecidableEq, Repr

namespace Setting

/-- The setting that treats all targets alike. -/
def ofThreshold (t : Threshold) : Setting := ⟨.ofThreshold t, []⟩

/-- The results of reading directives, apart from blank ones. -/
def directives (text : List Char) : List (Except SettingError Directive) :=
  (((text.splitOn ',').map Text.trim).filter (· ≠ [])).map Directive.ofText

/-- What was passed over, if reading failed. -/
def error? {α : Type} : Except SettingError α → Option SettingError
  | .error e => some e
  | .ok _ => none

/-- Reads a setting with the given directives and, perhaps, a pattern. -/
def ofParts (text : List Char) (pattern : Option (List Char)) : Setting :=
  let reading := pattern.map fun text => (Pattern.ofText text).mapError (SettingError.pattern text)
  ⟨.ofDirectives ((directives text).filterMap Except.toOption) (reading.bind Except.toOption),
    (directives text).filterMap error? ++ (reading.bind error?).toList⟩

/-- Reads a setting as `RUST_LOG` gives it. -/
def ofText (text : String) : Setting :=
  match text.toList.splitOn '/' with
  | [directives] => ofParts directives none
  | [directives, pattern] => ofParts directives (some pattern)
  | _ => ⟨.ofDirectives [] none, [.manyPatterns text]⟩

/-- The text of the log: what was passed over, then the entries of the records shown. -/
def text (s : Setting) (records : List Record) : String :=
  String.join (s.errors.map fun e => "warning: " ++ e.message ++ ", ignoring it\n") ++
    s.filter.text records

end Setting

end TypeLattice.Log
