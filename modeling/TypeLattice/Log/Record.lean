import TypeLattice.Text.ControlSequence

/-!
# Log records

A record has a level, the target that made it, and a message. A threshold decides which levels
are shown: a level lets everything through that is at least as severe. Asking for more never
shows less (`rank_ofVerbosity_le_succ`, `shows_of_rank_le`).

A record is shown as one entry; the further lines of its message are indented by four spaces, and
what a terminal would take as a command is left out.
-/
namespace TypeLattice.Log

/-! ## Levels -/

/-- The log level of a record: how severe it is. -/
inductive Level where
  | error
  | warn
  | info
  | debug
  | trace
  deriving DecidableEq, Repr

namespace Level

/-- The position of the level, the most severe first. -/
def rank : Level → Nat
  | .error => 1
  | .warn => 2
  | .info => 3
  | .debug => 4
  | .trace => 5

/-- The level in an entry, filled up to five characters. -/
def label : Level → String
  | .error => "ERROR"
  | .warn => "WARN "
  | .info => "INFO "
  | .debug => "DEBUG"
  | .trace => "TRACE"

end Level

/-- A level filter: the least severe level that is shown, if any is. -/
inductive Threshold where
  | off
  | upTo (level : Level)
  deriving DecidableEq, Repr

namespace Threshold

/-- The position of the threshold: how many levels it lets through. -/
def rank : Threshold → Nat
  | .off => 0
  | .upTo level => level.rank

/-- Whether records of the level are shown. -/
def shows (t : Threshold) (level : Level) : Bool := level.rank ≤ t.rank

/-- The threshold that lets every level through. -/
def all : Threshold := .upTo .trace

/-- The default level filter for a log verbosity: warnings, with `-v` info, with `-vv` debug, with
`-vvv` and more of them trace. -/
def ofVerbosity : Nat → Threshold
  | 0 => .upTo .warn
  | 1 => .upTo .info
  | 2 => .upTo .debug
  | _ => all

/-- The level filters with their names. -/
def named : List (String × Threshold) :=
  [("off", .off), ("error", .upTo .error), ("warn", .upTo .warn), ("info", .upTo .info),
    ("debug", .upTo .debug), ("trace", .upTo .trace)]

/-- The threshold of that name, in capitals or not. -/
def ofName? (name : List Char) : Option Threshold :=
  (named.find? fun (n, _) => n.toList = name.map Char.toLower).map (·.2)

theorem rank_ofVerbosity_le_succ (n : Nat) :
    (ofVerbosity n).rank ≤ (ofVerbosity (n + 1)).rank := by
  match n with
  | 0 | 1 | 2 => decide
  | _ + 3 => exact Nat.le_refl _

theorem shows_of_rank_le {t u : Threshold} (h : t.rank ≤ u.rank) {level : Level}
    (shown : t.shows level = true) : u.shows level = true := by
  simp only [shows, decide_eq_true_eq] at shown ⊢
  exact Nat.le_trans shown h

end Threshold

/-! ## Records -/

/-- A log record: a message of the program about what it does, with its target. -/
structure Record where
  level : Level
  target : String
  message : String
  deriving DecidableEq, Repr

namespace Record

/-- The message with every line after the first indented. -/
def indented (message : String) : String :=
  String.ofList <| message.toList.flatMap fun c =>
    if c = '\n' then '\n' :: List.replicate 4 ' ' else [c]

/-- The entry of the record in the log. -/
def text (r : Record) : String :=
  Text.withoutSequences <|
    "[" ++ r.level.label ++ " " ++ r.target ++ "] " ++ indented r.message ++ "\n"

end Record

end TypeLattice.Log
