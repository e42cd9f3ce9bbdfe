import TypeLattice.Proofs.Cli.Verbosity

/-!
# Words that ask for sizes

Words after a separator stand for themselves, so every list of names can be asked for, also of
names that begin with a hyphen; and every verbosity up to the largest can be asked for with it.

Results:

* `foldlM_takeWord_verbose`: options for more records add up, as far as they count;
* `foldlM_takeWord_literal`: the words after a separator are the names;
* `ofWords_size`: the words `size` and `sizeArguments` ask for just what they were made from.
-/
namespace TypeLattice.Cli

namespace Reading

theorem foldlM_takeWord_verbose (scope : Scope) {r : Reading} (hl : r.literal = false)
    (hp : r.pending = .nothing) (hv : r.verbosity ≤ mostVerbose) (n : Nat) :
    (List.replicate n "-v").foldlM (takeWord scope) r =
      .ok { r with verbosity := min mostVerbose (r.verbosity + n) } := by
  have htext : Louder.text (.letters 0) = "-v" := rfl
  have hwords := foldlM_takeWord_louder scope ⟨hl, hp, hv⟩ (List.replicate n (.letters 0))
  rw [List.map_replicate, htext, Louder.total_replicate, Louder.count, Nat.mul_one] at hwords
  exact hwords

/-- After a separator every word is a name. -/
theorem foldlM_takeWord_literal {r : Reading} (hl : r.literal = true) (names : List String) :
    names.foldlM (takeWord .size) r = .ok { r with names := r.names ++ names } := by
  induction names generalizing r with
  | nil => simp [pure, Except.pure]
  | cons name names ih =>
    have hw : r.takeWord .size name = .ok { r with names := r.names ++ [name] } := by
      simp [takeWord, hl, takeItself]
    rw [List.foldlM_cons, hw]
    simp only [bind, Except.bind]
    rw [ih (r := { r with names := r.names ++ [name] }) hl, List.append_assoc]
    rfl

end Reading

/-- The words behind `size` that ask for the sizes of the named types, with that many options
for more records. -/
def sizeArguments (count : Nat) (json : Bool) (names : List String) : List String :=
  List.replicate count "-v" ++ (((if json then ["--json"] else []) ++ ["--"]) ++ names)

theorem takeWords_sizeArguments (count : Nat) (json : Bool) (names : List String) :
    Reading.takeWords .size (sizeArguments count json names) =
      .ok { verbosity := min Reading.mostVerbose count, json, names, literal := true } := by
  have hverbose := Reading.foldlM_takeWord_verbose .size (r := {}) rfl rfl
    (Nat.zero_le _) count
  rw [Nat.zero_add] at hverbose
  have hopen : ∀ v, ((if json then ["--json"] else []) ++ ["--"]).foldlM (Reading.takeWord .size)
      ({ verbosity := v } : Reading) = .ok { verbosity := v, json, literal := true } := by
    cases json <;> intro v <;> rfl
  have hnames : ∀ v, names.foldlM (Reading.takeWord .size)
      ({ verbosity := v, json, literal := true } : Reading) =
        .ok { verbosity := v, json, names, literal := true } :=
    fun v => Reading.foldlM_takeWord_literal rfl names
  rw [Reading.takeWords, sizeArguments, List.foldlM_append, hverbose]
  simp only [bind, Except.bind]
  rw [List.foldlM_append, hopen]
  simp only [bind, Except.bind]
  rw [hnames]
  rfl

theorem ofWords_size {names : List String} (hn : names ≠ []) (count : Nat) (json : Bool) :
    Invocation.ofWords ("size" :: sizeArguments count json names) =
      .ok ⟨min Reading.mostVerbose count, .size ⟨names, json⟩⟩ := by
  have hplain : Word.ofString "size" = .plain "size" := rfl
  simp only [Invocation.ofWords, Invocation.ofRest, hplain, Invocation.ofCommand,
    takeWords_sizeArguments]
  simp [Invocation.ofReading, Reading.size, hn, bind, Except.bind, pure, Except.pure]
  omega

end TypeLattice.Cli
