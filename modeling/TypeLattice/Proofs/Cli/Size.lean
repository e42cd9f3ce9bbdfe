import TypeLattice.Cli.Run
import TypeLattice.Proofs.Cli.Words
import TypeLattice.Proofs.Log.Lines
import TypeLattice.Proofs.Table.Measurement
import TypeLattice.Proofs.Text.Quoting

/-!
# All sizes or none

A command line that asks for sizes gets all of them or an error, and which of the two does not
depend on where the words stood, on the log or on the terminal. `Answers` says what holds of
every answer to a command, whatever words it was asked for with.

The log comes before the error on the same output. It cannot be mistaken for the error, but an
entry that shows an escape character may have lost the line feed at its end. If that is the last
entry, the error stands on its line. Without an error the log is all there is on that output.

Results:

* `SizeCommand.run_of_failure`, `SizeCommand.run_of_reads`: the outcome in the two cases;
* `isRefusal_response`, `isListing_response`: what is answered then;
* `respond_size_all_or_none`: the answers to command lines that ask for sizes.
-/
namespace TypeLattice.Cli

open Log (HasLine EndsLine)
open Measurement (Reads)

/-- What holds of every answer to the command. -/
def Answers (c : Command) (P : Log.Setting → Response → Prop) : Prop :=
  ∀ (outer : Option Log.Setting) (terminal : Bool) (words : List String) (i : Invocation),
    Invocation.ofWords words = .ok i → i.command = c →
      ∃ answer, respond outer terminal words = .ok answer ∧ P (i.setting outer) answer

/-- The answer that the program makes of an outcome. -/
def Outcome.response (setting : Log.Setting) (o : Outcome) : Response :=
  ⟨o.status, o.output, o.errorText setting⟩

theorem respond_of_ofWords {words : List String} {i : Invocation}
    (h : Invocation.ofWords words = .ok i) (outer : Option Log.Setting) (terminal : Bool) :
    respond outer terminal words =
      .ok ((i.command.run terminal).response (i.setting outer)) := by
  simp [respond, h, Outcome.response, bind, Except.bind, pure, Except.pure]

theorem answers_size {c : SizeCommand} {P : Log.Setting → Response → Prop}
    (h : ∀ setting, P setting (c.run.response setting)) : Answers (.size c) P := by
  intro outer terminal words i hi hc
  refine ⟨_, respond_of_ofWords hi outer terminal, ?_⟩
  rw [hc]
  exact h (i.setting outer)

/-! ## Outcomes -/

namespace SizeCommand

/-- The records of names that were read. -/
def records (names : List String) (types : List (Ty Pointee)) : List Log.Record :=
  (names.zip types).map fun (name, t) => record name t

theorem run_of_failure {before : List String} {types : List (Ty Pointee)} {bad : String}
    {cause : ParseError} (h : Reads before types) (hb : Ty.parse bad = .error cause)
    (after : List String) (json : Bool) : run ⟨before ++ bad :: after, json⟩ =
      ⟨Outcome.failed, "", records before types,
        some ("error: " ++ MeasureError.message ⟨bad, cause⟩)⟩ := by
  rw [run, Measurement.ofNames_of_failure h hb]
  rfl

theorem run_of_reads {names : List String} {types : List (Ty Pointee)} (h : Reads names types)
    (json : Bool) : run ⟨names, json⟩ =
      if json then .ofJson (records names types) (types.map Row.ofTy)
      else .ofTable (records names types) (sizeTable (types.map Row.ofTy)) := by
  rw [run, Measurement.ofNames_of_reads h, Measurement.rows, Measurement.map_snd_zip_of_reads h]
  rfl

theorem escape_not_mem_record {name : String} {t : Ty Pointee} (h : '\x1B' ∉ (render t).toList) :
    '\x1B' ∉ (record name t).message.toList := by
  have hname : '\x1B' ∉ (Text.quotedString name).toList := by
    intro hm
    have := Text.isControl_eq_false_of_mem_quotedString hm
    exact absurd this (by decide)
  have hsize : '\x1B' ∉ (render t.byteSize).toList := by
    rw [Ty.byteSize]
    rcases t.kind with s | _
    · cases s <;> decide
    · decide
  simp only [record, String.toList_append, List.mem_append, not_or]
  exact ⟨⟨⟨⟨⟨hname, by decide⟩, h⟩, by decide⟩, hsize⟩, by decide⟩

/-- The entry of a type that is written without an escape character ends its line. -/
theorem endsLine_record {t : Ty Pointee} (h : '\x1B' ∉ (render t).toList) (name : String) :
    EndsLine (record name t).text.toList := by
  have htarget : '\x1B' ∉ "cfgir::commands::size".toList := by decide
  exact Log.endsLine_text htarget (escape_not_mem_record h)

theorem not_hasLine_records {setting : Log.Setting} (hs : setting.errors = [])
    (names : List String) (types : List (Ty Pointee)) :
    ¬HasLine "error: ".toList (setting.text (records names types)).toList := by
  refine Log.not_hasLine_text hs (fun r hr => ?_) (by decide) (by decide) "rror: ".toList
  obtain ⟨⟨name, t⟩, -, rfl⟩ := List.mem_map.1 hr
  show '\n' ∉ "cfgir::commands::size".toList
  decide

end SizeCommand

/-! ## Answers -/

/-- The answer to names of which one is no type; the names `before` it are read as `types`. -/
structure IsRefusal (before : List String) (types : List (Ty Pointee)) (e : MeasureError)
    (setting : Log.Setting) (answer : Response) : Prop where
  status : answer.status = 1
  output : answer.output = ""
  errorOutput : answer.errorOutput =
    setting.text (SizeCommand.records before types) ++ ("error: " ++ e.message ++ "\n")
  /-- The error is on a line of its own just if the last entry shown has kept its line feed. -/
  ownLine : EndsLine (setting.text (SizeCommand.records before types)).toList ↔
    ∀ r ∈ ((SizeCommand.records before types).filter setting.filter.shows).getLast?,
      EndsLine r.text.toList
  /-- An entry may lose its line feed only if its type is written with an escape character. -/
  keepsLine : ∀ t ∈ types, '\x1B' ∉ (render t).toList →
    ∀ name, EndsLine (SizeCommand.record name t).text.toList

/-- The answer to names that are all types. Without complaints about the setting no line of it can
be taken for an error. -/
structure IsListing (json : Bool) (names : List String) (types : List (Ty Pointee))
    (setting : Log.Setting) (answer : Response) : Prop where
  status : answer.status = 0
  pretty : json = true →
    answer.output = (Row.listToJson (types.map Row.ofTy)).pretty ++ "\n"
  table : json = false → sizeTable (types.map Row.ofTy) = .ok answer.output
  errorOutput : answer.errorOutput = setting.text (SizeCommand.records names types)
  quiet : setting.errors = [] → ¬HasLine "error: ".toList answer.errorOutput.toList

theorem isRefusal_response {before : List String} {types : List (Ty Pointee)} {bad : String}
    {cause : ParseError} (h : Reads before types) (hb : Ty.parse bad = .error cause)
    (after : List String) (json : Bool) (setting : Log.Setting) :
    IsRefusal before types ⟨bad, cause⟩ setting
      ((SizeCommand.run ⟨before ++ bad :: after, json⟩).response setting) := by
  rw [SizeCommand.run_of_failure h hb]
  exact ⟨rfl, rfl, rfl, Log.endsLine_setting_text, fun t _ => SizeCommand.endsLine_record⟩

theorem isListing_response {names : List String} {types : List (Ty Pointee)}
    (h : Reads names types) {json : Bool}
    (hfits : json = false → ∀ row ∈ types.map Row.ofTy, row.name.utf8ByteSize ≤ 65535)
    (setting : Log.Setting) : IsListing json names types setting
      ((SizeCommand.run ⟨names, json⟩).response setting) := by
  have hquiet : setting.errors = [] →
      ¬HasLine "error: ".toList (setting.text (SizeCommand.records names types)).toList :=
    fun hs => SizeCommand.not_hasLine_records hs names types
  rw [SizeCommand.run_of_reads h]
  cases json with
  | true =>
    have herr : ((Outcome.ofJson (SizeCommand.records names types)
        (types.map Row.ofTy)).response setting).errorOutput =
          setting.text (SizeCommand.records names types) := String.append_empty
    exact ⟨rfl, fun _ => rfl, nofun, herr, by rwa [if_pos rfl, herr]⟩
  | false =>
    obtain ⟨table, ht⟩ := exists_sizeTable_iff.2 (hfits rfl)
    have herr : ((Outcome.ofTable (SizeCommand.records names types)
        (.ok table)).response setting).errorOutput =
          setting.text (SizeCommand.records names types) := String.append_empty
    rw [ht]
    exact ⟨rfl, nofun, fun _ => ht, herr, by rwa [if_neg Bool.false_ne_true, herr]⟩

/-- Every answer to the names has the same status and output; the error, if there is one, names
the first of them that is no type. -/
theorem respond_size_all_or_none {names : List String} (hn : names ≠ []) (json : Bool) :
    (∀ count, Invocation.ofWords ("size" :: sizeArguments count json names) =
      .ok ⟨min Reading.mostVerbose count, .size ⟨names, json⟩⟩) ∧
    (∃ status output, Answers (.size ⟨names, json⟩) fun _ answer =>
      answer.status = status ∧ answer.output = output) ∧
    (∀ name ∈ names, ∀ e, Ty.parse name = .error e →
      ∃ before types bad cause after, names = before ++ bad :: after ∧ Reads before types ∧
        Ty.parse bad = .error cause ∧ measure names = .error ⟨bad, cause⟩ ∧
        Answers (.size ⟨names, json⟩) (IsRefusal before types ⟨bad, cause⟩)) ∧
    ∀ rows, measure names = .ok rows →
      (json = false → ∀ row ∈ rows, row.name.utf8ByteSize ≤ 65535) →
      ∃ types, Reads names types ∧ types.map Row.ofTy = rows ∧
        Answers (.size ⟨names, json⟩) (IsListing json names types) := by
  refine ⟨fun count => ofWords_size hn count json,
    ⟨_, _, answers_size fun setting => ⟨rfl, rfl⟩⟩, ?_⟩
  rcases Measurement.exists_reads_or_failure names with
    ⟨types, h⟩ | ⟨before, types, bad, cause, after, rfl, h, hb⟩
  · refine ⟨fun name hm e he => absurd he (h.parse_ne_error hm e), fun rows hrows hfits => ?_⟩
    rw [Measurement.measure_of_reads h] at hrows
    cases hrows
    exact ⟨types, h, rfl, answers_size (isListing_response h hfits)⟩
  · have hm := Measurement.measure_of_failure h hb after
    refine ⟨fun name _ e _ => ⟨before, types, bad, cause, after, rfl, h, hb, hm,
      answers_size (isRefusal_response h hb after json)⟩, fun rows hrows => ?_⟩
    rw [hm] at hrows
    cases hrows

theorem respond_size_int_quad_and_int_reference :
    (∃ answer, respond (some (.ofText "debug")) false ["size", "int", "quad"] = .ok answer ∧
      answer.status = 1 ∧ answer.output = "" ∧
      ∃ log, answer.errorOutput = log ++ "error: unknown type `quad` in `quad`\n") ∧
    ∃ answer, respond none false ["-vv", "size", "int", "ptr<string>"] = .ok answer ∧
      answer.status = 0 ∧
      sizeTable [⟨"int", .scalar .int, 4, none⟩,
        ⟨"ptr<string>", .reference, 8, some "TYPE_STRING"⟩] = .ok answer.output ∧
      ¬HasLine "error: ".toList answer.errorOutput.toList := by
  constructor
  · obtain ⟨-, -, hfail, -⟩ :=
      respond_size_all_or_none (by decide : ["int", "quad"] ≠ []) false
    obtain ⟨before, types, bad, cause, after, -, -, -, hm, ha⟩ :=
      hfail "quad" (by decide) (.unknownType "quad") rfl
    have hquad : measure ["int", "quad"] = .error ⟨"quad", .unknownType "quad"⟩ := rfl
    rw [hquad] at hm
    cases hm
    obtain ⟨answer, hr, ha⟩ :=
      ha (some (.ofText "debug")) false ["size", "int", "quad"] ⟨0, _⟩ rfl rfl
    exact ⟨answer, hr, ha.status, ha.output, _, ha.errorOutput⟩
  · obtain ⟨-, -, -, hrows⟩ :=
      respond_size_all_or_none (by decide : ["int", "ptr<string>"] ≠ []) false
    obtain ⟨types, -, htypes, ha⟩ := hrows _ rfl fun _ => by decide
    obtain ⟨answer, hr, ha⟩ :=
      ha none false ["-vv", "size", "int", "ptr<string>"] ⟨2, _⟩ rfl rfl
    have htable := ha.table rfl
    rw [htypes] at htable
    exact ⟨answer, hr, ha.status, htable, ha.quiet rfl⟩

/-- The entry of a class whose name opens a control sequence has lost its line feed. -/
theorem error_on_line_of_entry : ∃ errorOutput,
    respond none false ["-vv", "size", "ptr<class \x1BP>", "quad"] = .ok ⟨1, "", errorOutput⟩ ∧
      ¬HasLine "error: ".toList errorOutput.toList := by
  have hw : Invocation.ofWords ["-vv", "size", "ptr<class \x1BP>", "quad"] =
    .ok ⟨2, .size ⟨["ptr<class \x1BP>"] ++ "quad" :: [], false⟩⟩ := rfl
  have hr : Reads ["ptr<class \x1BP>"] [.toClass "\x1BP"] := .cons rfl .nil
  have hb : Ty.parse "quad" = .error (.unknownType "quad") := rfl
  rw [respond_of_ofWords hw, Command.run, SizeCommand.run_of_failure hr hb]
  exact ⟨_, rfl, by decide +kernel⟩

end TypeLattice.Cli
