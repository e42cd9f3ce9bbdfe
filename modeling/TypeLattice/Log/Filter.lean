import TypeLattice.Log.Record
import TypeLattice.Pattern.Basic

/-!
# Which records are shown

A directive sets a threshold for the targets that begin in some way. Of the directives that
cover the target of a record the longest decides, and a record that none covers is not
shown. A filter may also have a pattern, which is found in every message shown.

A filter with one directive for all targets is as good as its threshold (`shows_ofThreshold`).
-/
namespace TypeLattice.Log

/-- A threshold for some targets. -/
structure Directive where
  /-- How the targets begin. Without it the directive is for all of them. -/
  start : Option String
  threshold : Threshold
  deriving DecidableEq, Repr

namespace Directive

/-- Whether the directive is for the target. -/
def covers (target : String) (d : Directive) : Bool :=
  d.start.all fun start => start.toList.isPrefixOf target.toList

/-- How much of a target the directive spells out. -/
def length (d : Directive) : Nat := d.start.elim 0 String.length

/-- Puts a directive in the place of the one with the same beginning, or else at the end. -/
def put (new : Directive) : List Directive → List Directive
  | [] => [new]
  | d :: ds => if d.start = new.start then new :: ds else d :: put new ds

/-- The directive that decides on a target: of those that cover it the longest, and the last
of several. -/
def decisive? (target : String) : List Directive → Option Directive
  | [] => none
  | d :: ds =>
    match decisive? target ds with
    | some later => if d.covers target ∧ later.length < d.length then some d else some later
    | none => if d.covers target then some d else none

end Directive

/-- Which records are shown. -/
structure Filter where
  directives : List Directive
  /-- A pattern that is found in every message shown. -/
  pattern : Option Pattern := none
  deriving DecidableEq, Repr

namespace Filter

/-- The filter that treats all targets alike. -/
def ofThreshold (t : Threshold) : Filter := ⟨[⟨none, t⟩], none⟩

/-- The filter of directives, later ones put in the place of earlier ones. Without any
directive only errors are shown. -/
def ofDirectives (directives : List Directive) (pattern : Option Pattern) : Filter :=
  if directives = [] then ⟨[⟨none, .upTo .error⟩], pattern⟩
  else ⟨directives.foldl (fun ds d => d.put ds) [], pattern⟩

/-- Whether the record is shown. -/
def shows (f : Filter) (r : Record) : Bool :=
  (Directive.decisive? r.target f.directives).any (·.threshold.shows r.level) &&
    f.pattern.all (·.isFoundIn r.message.toList)

/-- The entries of the records that are shown. -/
def text (f : Filter) (records : List Record) : String :=
  String.join ((records.filter f.shows).map Record.text)

end Filter

theorem Filter.shows_ofThreshold (t : Threshold) (r : Record) :
    (ofThreshold t).shows r = t.shows r.level := by
  simp [shows, ofThreshold, Directive.decisive?, Directive.covers]

end TypeLattice.Log
