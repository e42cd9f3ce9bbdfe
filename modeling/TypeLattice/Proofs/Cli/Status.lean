import TypeLattice.Proofs.Cli.Size
import TypeLattice.Proofs.Operand.Text

/-!
# The exit status

The status tells what became of a command line: it was not carried out, a name in it is no
type, its table cannot be laid out, or all went well. Only a table of sizes can fail to be laid
out: JSON has no columns, and the names in the lattice are short.

Results:

* `SizeCommand.status_cases`: a measurement fails, overflows or succeeds;
* `exitStatus_respond`: the four statuses, each with its cause.
-/
namespace TypeLattice.Cli

theorem exitStatus_respond_of_error {words : List String} {halt : Halt}
    (h : Invocation.ofWords words = .error halt) (outer : Option Log.Setting) (terminal : Bool) :
    exitStatus (respond outer terminal words) = halt.status := by
  simp [respond, h, exitStatus, bind, Except.bind]

theorem exitStatus_respond_of_ok {words : List String} {i : Invocation}
    (h : Invocation.ofWords words = .ok i) (outer : Option Log.Setting) (terminal : Bool) :
    exitStatus (respond outer terminal words) = (i.command.run terminal).status := by
  rw [respond_of_ofWords h]
  rfl

/-- Listing the lattice always succeeds. -/
theorem TypesCommand.status_run (terminal : Bool) (c : TypesCommand) :
    (c.run terminal).status = 0 := by
  obtain ⟨table, ht⟩ := (c.view terminal).exists_text
  simp only [run, ht]
  split <;> rfl

/-! ## Measurements -/

namespace SizeCommand

/-- Some name is no type. -/
def Fails (c : SizeCommand) : Prop := ∃ name ∈ c.names, ∃ cause, Ty.parse name = .error cause

/-- Every name is a type, and the table of them would have a name over the limit. -/
def Overflows (c : SizeCommand) : Prop :=
  c.json = false ∧ ∃ rows, measure c.names = .ok rows ∧ ∃ row ∈ rows, 65535 < row.name.utf8ByteSize

theorem status_of_measure_eq_error {c : SizeCommand} {e : MeasureError}
    (h : measure c.names = .error e) : c.run.status = Outcome.failed := by
  rw [measure] at h
  rw [run, h]

theorem run_of_measure_eq_ok {c : SizeCommand} {rows : List Row} (h : measure c.names = .ok rows) :
    ∃ records, c.run =
      if c.json then .ofJson records rows else .ofTable records (sizeTable rows) := by
  rw [measure] at h
  rw [run, h]
  exact ⟨_, rfl⟩

theorem fails_iff {c : SizeCommand} : c.Fails ↔ ∃ e, measure c.names = .error e :=
  Measurement.exists_measure_eq_error_iff.symm

theorem overflows_iff {c : SizeCommand} {rows : List Row} (h : measure c.names = .ok rows) :
    c.Overflows ↔ c.json = false ∧ ¬∃ table, sizeTable rows = .ok table := by
  rw [exists_sizeTable_iff]
  simp [Overflows, h, Text.Column.limit]

/-- A measurement fails, overflows or succeeds, and the status says which. -/
theorem status_cases (c : SizeCommand) :
    (c.run.status = Outcome.failed ∧ c.Fails ∧ ¬c.Overflows) ∨
      (c.run.status = Outcome.aborted ∧ ¬c.Fails ∧ c.Overflows) ∨
      (c.run.status = 0 ∧ ¬c.Fails ∧ ¬c.Overflows) := by
  cases hm : measure c.names with
  | error e =>
    have hover : ¬c.Overflows := by simp [Overflows, hm]
    exact .inl ⟨status_of_measure_eq_error hm, fails_iff.2 ⟨e, hm⟩, hover⟩
  | ok rows =>
    have hfails : ¬c.Fails := by simp [fails_iff, hm]
    obtain ⟨records, hrun⟩ := run_of_measure_eq_ok hm
    rw [overflows_iff hm, hrun]
    cases hj : c.json with
    | true => exact .inr (.inr ⟨rfl, hfails, by simp⟩)
    | false =>
      cases ht : sizeTable rows with
      | ok table => exact .inr (.inr ⟨rfl, hfails, by simp⟩)
      | error e => exact .inr (.inl ⟨rfl, hfails, by simp⟩)

theorem status_of_overflows {c : SizeCommand} (h : c.Overflows) :
    c.run.status = Outcome.aborted := by
  rcases c.status_cases with ⟨-, -, hno⟩ | ⟨hs, -⟩ | ⟨-, -, hno⟩
  · exact absurd h hno
  · exact hs
  · exact absurd h hno

/-- A class is over the limit from names of 65525 bytes on. -/
theorem overflows_toClass_iff {name : String} :
    Overflows ⟨[render (Ty.toClass name)], false⟩ ↔ 65525 ≤ name.utf8ByteSize := by
  have hrows : measure [render (Ty.toClass name)] = .ok [Row.ofTy (.toClass name)] :=
    Measurement.measure_of_reads (.cons (Ty.parse_render _) .nil)
  have hrender : render (Ty.toClass name) = "ptr<class " ++ name ++ ">" := by
    apply String.toList_injective
    simp [Operand.toList_render_toClass]
  have hsize : (Row.ofTy (.toClass name)).name.utf8ByteSize = 10 + name.utf8ByteSize + 1 := by
    show (render (Ty.toClass name)).utf8ByteSize = _
    rw [hrender, String.utf8ByteSize_append, String.utf8ByteSize_append]
    rfl
  simp only [Overflows, hrows, Except.ok.injEq, true_and]
  constructor
  · rintro ⟨rows, rfl, row, hm, hlong⟩
    rw [List.mem_singleton.1 hm] at hlong
    omega
  · intro h
    exact ⟨_, rfl, _, List.mem_singleton_self _, by omega⟩

end SizeCommand

/-! ## Command lines -/

/-- A command line that is not carried out exits with 2, or with 0 if it asks for help; a
measurement that fails exits with 1; and only a name over the limit in a table of sizes aborts
the program. -/
theorem exitStatus_respond (outer : Option Log.Setting) (terminal : Bool) (words : List String) :
    let status := exitStatus (respond outer terminal words)
    (status = 2 ↔ ∃ halt, Invocation.ofWords words = .error halt ∧ halt ≠ .help) ∧
      (status = 1 ↔ ∃ verbosity c, Invocation.ofWords words = .ok ⟨verbosity, .size c⟩ ∧ c.Fails) ∧
      (status = 101 ↔
        ∃ verbosity c, Invocation.ofWords words = .ok ⟨verbosity, .size c⟩ ∧ c.Overflows) ∧
      (status = 0 ∨ status = 1 ∨ status = 2 ∨ status = 101) := by
  intro status
  cases hw : Invocation.ofWords words with
  | error halt =>
    have hs : status = halt.status := exitStatus_respond_of_error hw outer terminal
    rw [hs]
    cases halt <;> simp [Halt.status]
  | ok i =>
    obtain ⟨verbosity, command⟩ := i
    have hs : status = (command.run terminal).status := exitStatus_respond_of_ok hw outer terminal
    rw [hs]
    cases command with
    | types c => simp [Command.run, TypesCommand.status_run]
    | size c =>
      have hc := c.status_cases
      simp only [Outcome.failed, Outcome.aborted] at hc
      rcases hc with ⟨h, hf, ho⟩ | ⟨h, hf, ho⟩ | ⟨h, hf, ho⟩ <;> simp [Command.run, h, hf, ho]

theorem exitStatus_respond_toClass {name : String} (h : 65525 ≤ name.utf8ByteSize)
    (outer : Option Log.Setting) (terminal : Bool) :
    exitStatus (respond outer terminal ["size", "--", render (Ty.toClass name)]) = 101 := by
  have hw : Invocation.ofWords ["size", "--", render (Ty.toClass name)] =
      .ok ⟨0, .size ⟨[render (Ty.toClass name)], false⟩⟩ :=
    ofWords_size (List.cons_ne_nil _ _) 0 false
  rw [exitStatus_respond_of_ok hw]
  exact SizeCommand.status_of_overflows (SizeCommand.overflows_toClass_iff.2 h)

theorem wide_class_name_aborts : ∃ name,
    Ty.parse name = .ok (.toClass (String.ofList (List.replicate 65525 'A'))) ∧
      exitStatus (respond none false ["size", "--", name]) = 101 := by
  have hwide : 65525 ≤ (String.ofList (List.replicate 65525 'A')).utf8ByteSize := by
    have := Text.length_le_utf8ByteSize (String.ofList (List.replicate 65525 'A'))
    rwa [String.length_ofList, List.length_replicate] at this
  exact ⟨_, Ty.parse_render _, exitStatus_respond_toClass hwide none false⟩

end TypeLattice.Cli
