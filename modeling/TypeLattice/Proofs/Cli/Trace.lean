import TypeLattice.Proofs.Cli.Size
import TypeLattice.Proofs.Log.Entry
import TypeLattice.Proofs.Log.LevelName

/-!
# The trace of a measurement

The log of a measurement has one entry for each name before the first that is no type, and the
error for that name comes behind them. Which level is shown is set for the whole program or else
by the verbosity of the command line; below the level of the records there is no entry at all.

An entry begins with its name, which is quoted and so always stands in full. The type behind it is
written without what a terminal takes as commands, so a class may be shown with less than its name.

Results:

* `SizeCommand.text_record`, `SizeCommand.entry_of_shown`: the entry of a name, and when the type
  stands in full;
* `SizeCommand.text_records`: the log is the trace of the names read;
* `respond_size_traced`: what the answer to a command line for sizes has on standard error.
-/
namespace TypeLattice.Cli

open Log (HasLine LevelName Threshold)
open Measurement (ReadsUpTo)

/-! ## Entries -/

namespace SizeCommand

/-- How the entry of a name begins. -/
def entryHead (name : String) : String :=
  "[DEBUG cfgir::commands::size] " ++ (Text.quotedString name ++ " parsed as ")

/-- How the size of a type is given. -/
def sizeText (t : Ty Pointee) : String := " (" ++ render t.byteSize ++ " bytes)"

/-- The rest of the entry, with the type in full. -/
def typeLine (t : Ty Pointee) : String := Log.Record.indented (render t) ++ sizeText t ++ "\n"

/-- The entry of a name that is read as the type. -/
def entry (name : String) (t : Ty Pointee) : String :=
  entryHead name ++ Text.withoutSequences (typeLine t)

/-- The entries of names that are read as the types, if their level is shown. -/
def trace (threshold : Threshold) (names : List String) (types : List (Ty Pointee)) : String :=
  if threshold = .upTo .debug ∨ threshold = .upTo .trace then
    String.join ((names.zip types).map fun (name, t) => entry name t)
  else ""

theorem head_record (name : String) (t : Ty Pointee) :
    (record name t).head = "[DEBUG cfgir::commands::size] " := by
  -- Without the name and the type both sides are closed, and are compared by evaluation.
  have hclosed : "[" ++ Log.Level.debug.label ++ " " ++ "cfgir::commands::size" ++ "] " =
      "[DEBUG cfgir::commands::size] " := by decide
  exact hclosed

theorem any_isControl_sizeText (t : Ty Pointee) :
    (sizeText t).toList.any Text.isControl = false := by
  have hopen : " (".toList.any Text.isControl = false := rfl
  have hdigits : (render t.byteSize).toList.any Text.isControl = false :=
    Text.any_isControl_decimal t.byteSize
  have hclose : " bytes)".toList.any Text.isControl = false := rfl
  rw [sizeText, String.toList_append, String.toList_append, List.any_append, List.any_append,
    hopen, hdigits, hclose]
  rfl

theorem text_record (name : String) (t : Ty Pointee) : (record name t).text = entry name t := by
  have htarget : (record name t).target.toList.any Text.isControl = false := by
    have hclosed : "cfgir::commands::size".toList.any Text.isControl = false := rfl
    exact hclosed
  have hfront : (Text.quotedString name ++ " parsed as ").toList.any Text.isControl = false := by
    have hparsed : " parsed as ".toList.any Text.isControl = false := rfl
    rw [String.toList_append, List.any_append, Text.any_isControl_quotedString, hparsed]
    rfl
  have hmessage : (record name t).message =
      (Text.quotedString name ++ " parsed as ") ++ (render t ++ sizeText t) := by
    simp only [record, sizeText, String.append_assoc]
  have hrest : Log.Record.indented (render t ++ sizeText t) ++ "\n" = typeLine t := by
    rw [Log.Record.indented_append,
      Log.Record.indented_of_not_isControl (any_isControl_sizeText t), typeLine]
  have htext := Log.Record.text_append hmessage hfront htarget
  rw [head_record, hrest] at htext
  exact htext

/-- A type without control characters, blanks apart, stands in full. -/
theorem entry_of_shown {t : Ty Pointee} (h : (render t).toList.all Text.isShown = true)
    (name : String) : entry name t = entryHead name ++ typeLine t := by
  have hline : (typeLine t).toList.all Text.isShown = true := by
    rw [typeLine, String.toList_append, String.toList_append, List.all_append, List.all_append,
      Log.Record.all_isShown_indented h, Text.all_isShown (any_isControl_sizeText t)]
    rfl
  rw [entry, Text.withoutSequences_eq_self (List.all_eq_true.1 hline)]

/-- The log of the names read is their trace. -/
theorem text_records (threshold : Threshold) (names : List String) (types : List (Ty Pointee)) :
    (Log.Setting.ofThreshold threshold).text (records names types) =
      trace threshold names types := by
  have hlevel : ∀ r ∈ records names types, r.level = .debug := by
    intro r hr
    obtain ⟨⟨name, t⟩, -, rfl⟩ := List.mem_map.1 hr
    rfl
  have hentries : (records names types).map Log.Record.text =
      (names.zip types).map fun (name, t) => entry name t := by
    rw [records, List.map_map]
    exact List.map_congr_left fun (name, t) _ => text_record name t
  rw [Log.Setting.text_ofThreshold threshold hlevel, hentries, trace]
  exact if_congr Log.Threshold.shows_debug_iff rfl rfl

end SizeCommand

/-! ## Answers -/

/-- The level that is in force: the one set for the whole program if there is one, and otherwise
the one that the verbosity asks for. -/
def effectiveLevel (outer : Option LevelName) (verbosity : Nat) : Threshold :=
  outer.elim (.ofVerbosity verbosity) LevelName.threshold

theorem setting_eq_ofThreshold (outer : Option LevelName) (i : Invocation) :
    i.setting (outer.map LevelName.setting) =
      .ofThreshold (effectiveLevel outer i.verbosity) := by
  cases outer with
  | none => rfl
  | some name => exact name.setting_eq

/-- Standard error has the trace and then the error if there is one. Without an error nothing
follows the trace that could be taken for another entry, and nothing at all unless the table
cannot be laid out. -/
structure IsTraced (trace : String) (failure : Option MeasureError) (answer : Response) :
    Prop where
  refused : ∀ e, failure = some e →
    answer.errorOutput = trace ++ ("error: " ++ e.message ++ "\n")
  read : failure = none → ∃ rest, answer.errorOutput = trace ++ rest ∧
    (answer.status = 0 → rest = "") ∧ ¬HasLine "[".toList rest.toList

theorem not_hasLine_message (e : Text.LayoutError) :
    ¬HasLine "[".toList (e.message ++ "\n").toList := by
  cases e with
  | columnTooWide width =>
    have hclosed : ¬HasLine "[".toList ("Formatting argument out of range" ++ "\n").toList := by
      decide +kernel
    exact hclosed

theorem isTraced_response {names before : List String} {types : List (Ty Pointee)}
    {failure : Option MeasureError} (h : ReadsUpTo names before types failure) (json : Bool)
    (threshold : Threshold) : IsTraced (SizeCommand.trace threshold before types) failure
      ((SizeCommand.run ⟨names, json⟩).response (.ofThreshold threshold)) := by
  rw [← SizeCommand.text_records]
  cases h with
  | failure h hb after =>
    rw [SizeCommand.run_of_failure h hb]
    refine ⟨fun e he => ?_, nofun⟩
    cases he
    rfl
  | all h =>
    rw [SizeCommand.run_of_reads h]
    have hnone : ¬HasLine "[".toList "".toList := by decide
    refine ⟨nofun, fun _ => ?_⟩
    cases json with
    | true => exact ⟨"", rfl, fun _ => rfl, hnone⟩
    | false =>
      simp only [Bool.false_eq_true, if_false]
      cases sizeTable (types.map Row.ofTy) with
      | ok table => exact ⟨"", rfl, fun _ => rfl, hnone⟩
      | error e => exact ⟨e.message ++ "\n", rfl, nofun, not_hasLine_message e⟩

/-- The log of a command line for sizes has an entry for each name before the first that is no
type, in order, if the level in force shows it, and none for any other name. -/
theorem respond_size_traced {words names : List String} {verbosity : Nat} {json : Bool}
    (hw : Invocation.ofWords words = .ok ⟨verbosity, .size ⟨names, json⟩⟩)
    (outer : Option LevelName) (terminal : Bool) :
    (∃ answer, respond (outer.map LevelName.setting) terminal words = .ok answer ∧
      (∃ before types failure, ReadsUpTo names before types failure) ∧
      ∀ before types failure, ReadsUpTo names before types failure →
        IsTraced (SizeCommand.trace (effectiveLevel outer verbosity) before types) failure
          answer) ∧
    ∀ (name : String) (t : Ty Pointee), (render t).toList.all Text.isShown = true →
      SizeCommand.entry name t = SizeCommand.entryHead name ++ SizeCommand.typeLine t := by
  refine ⟨⟨_, respond_of_ofWords hw _ terminal, Measurement.exists_readsUpTo names, ?_⟩,
    fun name t ht => SizeCommand.entry_of_shown ht name⟩
  intro before types failure h
  rw [setting_eq_ofThreshold]
  exact isTraced_response h json (effectiveLevel outer verbosity)

/-- A name behind the failure has no entry, and below the level no name has one. -/
theorem int_traced_before_quad :
    (∃ answer, respond none false ["-vv", "size", "int", "quad", "long"] = .ok answer ∧
      answer.errorOutput = "[DEBUG cfgir::commands::size] \x22int\x22 parsed as int (4 bytes)\n" ++
        "error: unknown type `quad` in `quad`\n") ∧
    ∃ answer, respond (some (.ofText " Warn")) false ["-vv", "size", "int", "quad", "long"] =
        .ok answer ∧
      answer.errorOutput = "error: unknown type `quad` in `quad`\n" := by
  have hw : Invocation.ofWords ["-vv", "size", "int", "quad", "long"] =
    .ok ⟨2, .size ⟨["int"] ++ "quad" :: ["long"], false⟩⟩ := rfl
  have hread : ReadsUpTo (["int"] ++ "quad" :: ["long"]) ["int"] [.scalar .int]
      (some ⟨"quad", .unknownType "quad"⟩) := .failure (.cons rfl .nil) rfl ["long"]
  have herror : "error: " ++ MeasureError.message ⟨"quad", .unknownType "quad"⟩ ++ "\n" =
      "error: unknown type `quad` in `quad`\n" := by decide
  constructor
  · obtain ⟨⟨answer, hr, -, ht⟩, -⟩ := respond_size_traced hw none false
    have htrace : SizeCommand.trace (effectiveLevel none 2) ["int"] [.scalar .int] =
      "[DEBUG cfgir::commands::size] \x22int\x22 parsed as int (4 bytes)\n" := by decide +kernel
    have herr := (ht _ _ _ hread).refused _ rfl
    rw [htrace, herror] at herr
    exact ⟨answer, hr, herr⟩
  · obtain ⟨⟨answer, hr, -, ht⟩, -⟩ :=
      respond_size_traced hw (some ⟨" Warn", .upTo .warn, rfl⟩) false
    have herr := (ht _ _ _ hread).refused _ rfl
    have htrace : SizeCommand.trace (.upTo .warn) ["int"] [.scalar .int] = "" := rfl
    rw [effectiveLevel, Option.elim_some, htrace, herror, String.empty_append] at herr
    exact ⟨answer, hr, herr⟩

/-- A class whose name opens a control sequence is shown neither in full nor with its size. -/
theorem class_cut_short : ∃ log : String,
    log = "[DEBUG cfgir::commands::size] \x22ptr<class \\u\x7b1b\x7dP>\x22 parsed as ptr<class " ++
      "[DEBUG cfgir::commands::size] \x22int\x22 parsed as int (4 bytes)\n" ∧
    respond none false ["-vv", "size", "ptr<class \x1BP>", "int"] =
      .ok ⟨0, "ptr<class \x1BP>  8\nint            4\n", log⟩ ∧
    Ty.parse "ptr<class \x1BP>" = .ok (.toClass "\x1BP") ∧
    ¬(render (Ty.toClass "\x1BP")).toList <:+: log.toList := by
  have hw : Invocation.ofWords ["-vv", "size", "ptr<class \x1BP>", "int"] =
    .ok ⟨2, .size ⟨["ptr<class \x1BP>", "int"], false⟩⟩ := rfl
  have hr : Measurement.Reads ["ptr<class \x1BP>", "int"] [.toClass "\x1BP", .scalar .int] :=
    .cons rfl (.cons rfl .nil)
  have htable : sizeTable ([.toClass "\x1BP", .scalar .int].map Row.ofTy) =
    .ok "ptr<class \x1BP>  8\nint            4\n" := rfl
  have hlog : (Log.Setting.ofThreshold (.upTo .debug)).text (SizeCommand.records
      ["ptr<class \x1BP>", "int"] [.toClass "\x1BP", .scalar .int]) ++ "" =
    "[DEBUG cfgir::commands::size] \x22ptr<class \\u\x7b1b\x7dP>\x22 parsed as ptr<class " ++
      "[DEBUG cfgir::commands::size] \x22int\x22 parsed as int (4 bytes)\n" := by
    rw [SizeCommand.text_records, String.append_empty]
    decide +kernel
  refine ⟨_, rfl, ?_, rfl, fun hin => ?_⟩
  · rw [respond_of_ofWords hw, Command.run, SizeCommand.run_of_reads hr, htable, ← hlog]
    rfl
  · have hesc : '\x1B' ∈ (render (Ty.toClass "\x1BP")).toList := by decide
    exact absurd (hin.subset hesc) (by decide +kernel)

end TypeLattice.Cli
