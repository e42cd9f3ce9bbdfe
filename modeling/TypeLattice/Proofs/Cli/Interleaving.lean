import TypeLattice.Proofs.Cli.Verbosity

/-!
# Names between options

Behind `size`, names and options may stand in any order. Every name is taken where it stands, and
an option before or behind it takes nothing away: the names that are read are all names, in
order, however the options part them.

Results:

* `SizeWord.takeWord_text`: what one word adds to what was read before it;
* `SizeWord.foldlM_takeWord_text`: what several words add;
* `ofWords_size_interleaved`: what a command line of names and options asks for.
-/
namespace TypeLattice.Cli

/-- A word behind `size` that neither asks for help nor ends the options: a name, which does not
begin with a hyphen, or an option. -/
inductive SizeWord where
  | name (text : String) (plain : text.toList.head? ≠ some '-')
  | json
  | louder (m : Louder)
  deriving DecidableEq

namespace SizeWord

/-- The word. -/
def text : SizeWord → String
  | name text _ => text
  | json => "--json"
  | louder m => m.text

/-- The names among the words, in order. -/
def names : List SizeWord → List String
  | [] => []
  | name text _ :: words => text :: names words
  | json :: words | louder _ :: words => names words

/-- How many times the words ask for more log records. -/
def loudness : List SizeWord → Nat
  | [] => 0
  | louder m :: words => m.count + loudness words
  | json :: words | name _ _ :: words => loudness words

/-! ## What the words add -/

theorem takeWord_name {r : Reading} (h : r.IsOpen) {word : String}
    (plain : word.toList.head? ≠ some '-') :
    r.takeWord .size word = .ok { r with names := r.names ++ [word] } := by
  rw [h.takeWord_plain (Word.ofString_eq_plain plain)]
  rfl

theorem takeWord_json {r : Reading} (h : r.IsOpen) (hj : r.json = false) :
    r.takeWord .size "--json" = .ok { r with json := true } := by
  have hword : Word.ofString "--json" = .long "json" none := rfl
  have hknown : (Switch.ofName? "json").filter Scope.size.knows = some .json := rfl
  rw [h.takeWord_long hword hknown, Reading.takeSwitch, if_neg (by simp [hj])]

/-- What was read before the words, with what the words add. -/
def addTo (r : Reading) (words : List SizeWord) : Reading :=
  { r.louder (loudness words) with
    json := r.json || decide (json ∈ words)
    names := r.names ++ names words }

theorem addTo_nil {r : Reading} (h : r.IsOpen) : addTo r [] = r := by
  rw [addTo, loudness, Reading.louder_zero h]
  simp [names]

theorem addTo_name (r : Reading) (word : String) (plain : word.toList.head? ≠ some '-')
    (words : List SizeWord) :
    addTo r (name word plain :: words) = addTo { r with names := r.names ++ [word] } words := by
  simp [addTo, names, loudness, Reading.louder]

theorem addTo_json (r : Reading) (words : List SizeWord) :
    addTo r (json :: words) = addTo { r with json := true } words := by
  simp [addTo, names, loudness, Reading.louder]

theorem addTo_louder (r : Reading) (m : Louder) (words : List SizeWord) :
    addTo r (louder m :: words) = addTo (r.louder m.count) words := by
  rw [addTo, addTo, Reading.louder_louder, loudness, names]
  simp [Reading.louder]

/-- All words are taken, if the option that may not be repeated is not. -/
theorem foldlM_takeWord_text {r : Reading} (h : r.IsOpen) {words : List SizeWord}
    (hone : words.count json ≤ 1) (hnew : r.json = true → json ∉ words) :
    (words.map text).foldlM (Reading.takeWord .size) r = .ok (addTo r words) := by
  induction words generalizing r with
  | nil =>
    rw [addTo_nil h]
    rfl
  | cons word words ih =>
    rw [List.map_cons, List.foldlM_cons]
    cases word with
    | name word plain =>
      rw [text, takeWord_name h plain, addTo_name]
      have hone' : words.count json ≤ 1 := by simpa using hone
      exact ih ⟨h.literal, h.pending, h.verbosity⟩ hone' fun hr => by simpa using hnew hr
    | json =>
      have hr : r.json = false := by
        cases hr : r.json with
        | false => rfl
        | true => exact absurd List.mem_cons_self (hnew hr)
      have hlast : words.count json = 0 := by simpa using hone
      rw [text, takeWord_json h hr, addTo_json]
      exact ih ⟨h.literal, h.pending, h.verbosity⟩ (by omega) fun _ => List.count_eq_zero.1 hlast
    | louder m =>
      rw [text, Reading.takeWord_louder .size h m, addTo_louder]
      have hone' : words.count json ≤ 1 := by simpa using hone
      exact ih (h.louder m.count) hone' fun hr => by simpa using hnew hr

/-! ## Order -/

theorem loudness_perm {words words' : List SizeWord} (h : words.Perm words') :
    loudness words = loudness words' := by
  induction h with
  | nil => rfl
  | cons word _ ih => cases word <;> simp only [loudness, ih]
  | swap word word' words =>
    cases word <;> cases word'
    all_goals simp only [loudness]
    omega
  | trans _ _ ih ih' => rw [ih, ih']

end SizeWord

theorem takeWords_size {words : List SizeWord} (hj : words.count .json ≤ 1) :
    Reading.takeWords .size (words.map SizeWord.text) = .ok (SizeWord.addTo {} words) := by
  have hwords := SizeWord.foldlM_takeWord_text Reading.isOpen_empty hj nofun
  rw [Reading.takeWords, hwords]
  rfl

theorem ofWords_size_words {words : List SizeWord} (hn : SizeWord.names words ≠ [])
    (hj : words.count .json ≤ 1) (before : List Louder) :
    Invocation.ofWords (before.map Louder.text ++ "size" :: words.map SizeWord.text) =
      .ok ⟨min 255 (if SizeWord.loudness words = 0 then Louder.total before
          else SizeWord.loudness words), .size ⟨SizeWord.names words, decide (.json ∈ words)⟩⟩ := by
  have hplain : Word.ofString "size" = .plain "size" := rfl
  have hcommand : (SizeWord.addTo {} words).size =
      .ok (.size ⟨SizeWord.names words, decide (.json ∈ words)⟩) := by
    simp [Reading.size, SizeWord.addTo, hn]
  have hverbosity : (if (SizeWord.addTo {} words).verbosity = 0 then
      (Reading.louder (Louder.total before) {}).verbosity
      else (SizeWord.addTo {} words).verbosity) =
      min 255 (if SizeWord.loudness words = 0 then Louder.total before
        else SizeWord.loudness words) := by
    simp only [SizeWord.addTo, Reading.louder, Reading.mostVerbose, Nat.zero_add]
    rcases Nat.eq_zero_or_pos (SizeWord.loudness words) with h | h
    · rw [if_pos h, if_pos (by omega)]
    · rw [if_neg (by omega), if_neg (by omega)]
  rw [Invocation.ofWords_louder_command before hplain, Invocation.ofCommand]
  simp only [takeWords_size hj]
  show Invocation.ofReading _ Reading.size (SizeWord.addTo {} words) = _
  rw [Invocation.ofReading, hcommand, hverbosity]
  rfl

/-- A command line of words for more log records, `size`, and names and options in any order asks
for all the names in their order, and for JSON if that option is among the words. The verbosity
is that of the words behind `size`, if there are any, and otherwise that of the words before it.
So another order of the options between the names makes no difference. -/
theorem ofWords_size_interleaved {words : List SizeWord} (hn : SizeWord.names words ≠ [])
    (hj : words.count .json ≤ 1) (before : List Louder) :
    Invocation.ofWords (before.map Louder.text ++ "size" :: words.map SizeWord.text) =
      .ok ⟨min 255 (if SizeWord.loudness words = 0 then Louder.total before
          else SizeWord.loudness words), .size ⟨SizeWord.names words, decide (.json ∈ words)⟩⟩ ∧
    ∀ words' : List SizeWord, words'.Perm words → SizeWord.names words' = SizeWord.names words →
      Invocation.ofWords (before.map Louder.text ++ "size" :: words'.map SizeWord.text) =
        Invocation.ofWords (before.map Louder.text ++ "size" :: words.map SizeWord.text) := by
  refine ⟨ofWords_size_words hn hj before, fun words' hp hnames => ?_⟩
  have hn' : SizeWord.names words' ≠ [] := by rwa [hnames]
  have hj' : words'.count .json ≤ 1 := by rwa [hp.count_eq]
  rw [ofWords_size_words hn' hj' before, ofWords_size_words hn hj before, hnames,
    SizeWord.loudness_perm hp]
  simp only [hp.mem_iff]

/-- Three names, of which one is empty and one that of a command, with the options between them
and behind them. -/
theorem names_parted_by_options :
    Invocation.ofWords ["-vv", "size", "int", "-vvv", "--json", "", "--verbose", "types"] =
      .ok ⟨4, .size ⟨["int", "", "types"], true⟩⟩ ∧
    Invocation.ofWords ["-vv", "size", "int", "", "types", "--json", "--verbose", "-vvv"] =
      .ok ⟨4, .size ⟨["int", "", "types"], true⟩⟩ := by
  let int : SizeWord := .name "int" (by decide)
  let empty : SizeWord := .name "" (by decide)
  let types : SizeWord := .name "types" (by decide)
  let parted : List SizeWord :=
    [int, .louder (.letters 2), .json, empty, .louder .named, types]
  have hn : SizeWord.names parted ≠ [] := by decide
  have hj : parted.count .json ≤ 1 := by decide
  obtain ⟨hparted, horder⟩ := ofWords_size_interleaved hn hj [.letters 1]
  have hbehind := horder [int, empty, types, .json, .louder .named, .louder (.letters 2)]
    (by decide) rfl
  exact ⟨hparted, hbehind.trans hparted⟩

end TypeLattice.Cli
