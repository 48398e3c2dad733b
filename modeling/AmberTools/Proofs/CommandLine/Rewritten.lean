import AmberTools.Proofs.CommandLine.Exits

/-!
# Rewritten files

A run reads files and writes at most one. The only command that writes is that of reindenting a file
in place, and it writes last: behind the settings, the file and the new layout, when nothing can
fail any more. So a run that ends otherwise than with the exit code for nothing to report leaves all
files as they are, and so does one whose file is laid out already. A file that is rewritten keeps
its place, and at all other places there is what was there before, files and directories alike.

## Main definitions

* `CommandLine.filesBehind`: the files behind a command line.
* `CommandLine.Rewrites`: a request rewrites the file at a place.

## Main results

* `CommandLine.runRequest_files`: the files behind a request that rewrites none.
* `CommandLine.Rewrites.at?`: the places behind a request that rewrites a file.
* `CommandLine.filesBehind_at?_ne_iff`: the places that a command line changes.
-/

namespace AmberTools
namespace CommandLine

open Arguments

/-- The files behind a command line. A request is run; asking for help and misuse touch no file. -/
def filesBehind [Value.Writing] [Yaml.Reader] [Formatter.Others] (s : Surroundings)
    (words : List Text) : FileSet :=
  match Asked.ofWords words with
  | .request r => (runRequest s r).files
  | .help => s.files
  | .misuse => s.files

/-- A request rewrites the file at a place: it asks for the file to be reindented in place, settings
are in force, and reindenting changes the text that is read from there. -/
inductive Rewrites [Value.Writing] [Yaml.Reader] (s : Surroundings) (r : Request) :
    Path → Text → Prop
  | inPlace {settings : Settings} {path text : Text} {unit : Given Int} {found : Path}
      {old : List UInt8} (hr : r.command = .indent path .inPlace unit)
      (hsettings : InForce s r settings)
      (hfound : s.files.find (Path.ofText path) = .ok (.within found, .file old))
      (htext : Source.read s.files (Path.ofText path) = .ok text)
      (h : (Reindent.run settings text).changed = true) :
      Rewrites s r found (Reindent.run settings text).formatted

variable {s : Surroundings} {r : Request} {found : Path} {written : Text}

/-! ### Commands -/

theorem outcome_files (verbosity : Nat) (done : CommandResult) :
    (done.outcome verbosity).files = done.effects.files := by
  unfold CommandResult.outcome
  cases done.result with
  | ok code => rfl
  | error failure => cases failure <;> rfl

theorem runDiagnostics_files [Value.Writing] (s : Surroundings) (loaded : Settings) (input : Text)
    (options : DiagnosticOptions) :
    (runDiagnostics s loaded input options).effects.files = s.files := by
  unfold runDiagnostics
  split
  · rfl
  · dsimp only
    split <;> rfl

theorem runHighlight_files [Formatter.Others] (s : Surroundings) (path : Text) (name : Option Text) :
    (runHighlight s path name).effects.files = s.files := by
  unfold runHighlight
  split
  · rfl
  · split <;> rfl

theorem runCheck_files [Value.Writing] (s : Surroundings) (loaded : Settings) (path : Text)
    (executable : Given Text) (options : DiagnosticOptions) :
    (runCheck s loaded path executable options).effects.files = s.files := by
  unfold runCheck
  split
  · rfl
  · dsimp only
    split <;> rfl

/-- A reindented file is written in place only, and only if it has changed. -/
theorem finishIndent_files (files : FileSet) (path : Path) (mode : IndentMode)
    (o : Reindent.Outcome) :
    (finishIndent files path mode o).effects.files =
      if mode = .inPlace ∧ o.changed = true then files.write path (Utf8.encode o.formatted)
      else files := by
  unfold finishIndent
  cases mode <;> cases o.changed <;> rfl

/-! ### Requests -/

section Requests

variable [Value.Writing] [Yaml.Reader] [Formatter.Others]

/-- Loading settings writes no file. -/
theorem files_of_load {loaded : Settings} {log : List LogRecord}
    (hload : loadSettings s.files r.config = .ok (loaded, log)) :
    (runRequest s r).files = (runCommand s loaded r.command).effects.files := by
  simp only [runRequest, hload]
  exact outcome_files r.verbosity _

/-- A request that rewrites no file leaves all files as they are. -/
theorem runRequest_files (h : ∀ found written, ¬ Rewrites s r found written) :
    (runRequest s r).files = s.files := by
  cases hload : loadSettings s.files r.config with
  | error failure =>
    rw [runRequest_of_load_error hload]
    exact outcome_files r.verbosity _
  | ok result =>
    obtain ⟨loaded, log⟩ := result
    rw [files_of_load hload]
    cases hr : r.command with
    | diagnostics input options => exact runDiagnostics_files s loaded input options
    | highlight path name => exact runHighlight_files s path name
    | check path executable options => exact runCheck_files s loaded path executable options
    | indent path mode unit =>
      rw [runCommand, runIndent]
      cases hoverride : loaded.override (unitOverrides unit) with
      | error fault => rfl
      | ok settings =>
        have hsettings : InForce s r settings := ⟨loaded, log, hload, by rw [hr]; exact hoverride⟩
        dsimp only
        cases htext : Source.read s.files (Path.ofText path) with
        | error fault => rfl
        | ok text =>
          obtain ⟨found, old, -, hfound, -, -⟩ := Source.exists_of_read htext
          dsimp only
          rw [finishIndent_files, if_neg]
          rintro ⟨rfl, hchanged⟩
          exact h _ _ (.inPlace hr hsettings hfound htext hchanged)

/-- A request that rewrites a file has nothing to report. -/
theorem Rewrites.ending (h : Rewrites s r found written) : (runRequest s r).ending = .exit 0 := by
  cases h with
  | inPlace hr hsettings hfound htext hchanged =>
    rw [ending_indent hsettings hr, htext]
    rfl

/-- Only the bytes at the place are others. -/
theorem Rewrites.files (h : Rewrites s r found written) :
    (runRequest s r).files = s.files.replaced found (Utf8.encode written) := by
  cases h with
  | inPlace hr hsettings hfound htext hchanged =>
    obtain ⟨loaded, log, hload, hoverride⟩ := hsettings
    rw [hr] at hoverride
    change loaded.override (unitOverrides _) = _ at hoverride
    rw [files_of_load hload, hr, runCommand, runIndent, hoverride, htext]
    dsimp only
    rw [finishIndent_files, if_pos ⟨rfl, hchanged⟩, FileSet.write_eq_replaced hfound]

/-- Behind a request that rewrites a file, the new text is at its place, in UTF-8, and everything
else is where it was. -/
theorem Rewrites.at? (h : Rewrites s r found written) (place : FileSet.Place) :
    (runRequest s r).files.at? place =
      if place = .within found then some (.file (Utf8.encode written))
      else s.files.at? place := by
  rw [h.files]
  cases h with
  | inPlace hr hsettings hfound htext hchanged =>
    exact FileSet.at?_replaced (FileSet.at?_of_find hfound) _ place

omit [Formatter.Others] in
/-- The bytes that are written differ from those that were there. -/
theorem Rewrites.ne (h : Rewrites s r found written) :
    s.files.at? (.within found) ≠ some (.file (Utf8.encode written)) := by
  cases h with
  | @inPlace settings path text unit _ old hr hsettings hfound htext hchanged =>
    obtain ⟨_, bytes, text, hfind, hdecode, rfl⟩ := Source.exists_of_read htext
    obtain ⟨rfl, rfl⟩ : found = _ ∧ old = bytes := by simpa using hfound.symm.trans hfind
    have hreturn := Reindent.return_notMem_formatted settings (Text.return_notMem_unifyBreaks text)
    rw [FileSet.at?_of_find hfind]
    intro heq
    exact encode_ne hdecode hreturn (bne_iff_ne.mp hchanged) (by simpa using heq.symm)

/-- A request changes what is at a place if and only if it rewrites the file there. -/
theorem runRequest_at?_ne_iff {place : FileSet.Place} :
    (runRequest s r).files.at? place ≠ s.files.at? place ↔
      ∃ found written, Rewrites s r found written ∧ place = .within found := by
  constructor
  · intro hne
    by_cases h : ∃ found written, Rewrites s r found written
    · obtain ⟨found, written, hrewrites⟩ := h
      refine ⟨found, written, hrewrites, ?_⟩
      by_contra hplace
      rw [hrewrites.at?, if_neg hplace] at hne
      exact hne rfl
    · rw [runRequest_files fun found written hrewrites => h ⟨found, written, hrewrites⟩] at hne
      exact absurd rfl hne
  · rintro ⟨found, written, hrewrites, rfl⟩
    rw [hrewrites.at?, if_pos rfl]
    exact hrewrites.ne.symm

/-- A request that fails rewrites no file. -/
theorem Fails.files {failure : Failure} (h : Fails s r failure) :
    (runRequest s r).files = s.files :=
  runRequest_files fun _ _ hrewrites => (ending_eq_zero_iff.mp hrewrites.ending).2 failure h

/-! ### Command lines -/

/-- A command line changes what is at a place if and only if it is a request that rewrites the file
there. Such a request has nothing to report, and the new text is in the file. Asking for help,
misuse and every request that fails leave all files as they are. -/
theorem filesBehind_at?_ne_iff (s : Surroundings) (words : List Text) :
    let after := filesBehind s words
    (∀ place, after.at? place ≠ s.files.at? place ↔
        ∃ r found written, Asked.ofWords words = .request r ∧ Rewrites s r found written ∧
          place = .within found) ∧
      (∀ r found written, Asked.ofWords words = .request r → Rewrites s r found written →
        (runRequest s r).ending = .exit 0 ∧
          after.at? (.within found) = some (.file (Utf8.encode written))) ∧
      ((∀ r, Asked.ofWords words = .request r → ∃ failure, Fails s r failure) →
        after = s.files) := by
  intro after
  cases hwords : Asked.ofWords words with
  | request r =>
    have hafter : after = (runRequest s r).files := by
      simp only [after, filesBehind, hwords]
    rw [hafter]
    refine ⟨fun place => ?_, ?_, fun hfails => ?_⟩
    · simp [runRequest_at?_ne_iff]
    · rintro _ found written ⟨⟩ hrewrites
      exact ⟨hrewrites.ending, by rw [hrewrites.at?, if_pos rfl]⟩
    · obtain ⟨failure, hfails⟩ := hfails r rfl
      exact hfails.files
  | _ =>
    have hafter : after = s.files := by
      simp only [after, filesBehind, hwords]
    rw [hafter]
    simp

end Requests

/-- Of two files that are both out of place, the one that is named is rewritten. -/
example :
    let files : FileSet := .ofList [("a.ab".toList, Utf8.encode "if a \x7b\r\nb\n\x7d\n".toList),
      ("b.ab".toList, Utf8.encode "  b".toList)]
    let after := filesBehind { files } ["indent".toList, "--in-place".toList, "a.ab".toList]
    after.entries = [(Path.ofText "a.ab".toList,
        .file (Utf8.encode "if a \x7b\n    b\n\x7d\n".toList)),
      (Path.ofText "b.ab".toList, .file (Utf8.encode "  b".toList))] := by
  decide +kernel

end CommandLine
end AmberTools
