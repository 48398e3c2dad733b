import AmberTools.Proofs.CommandLine.Indent
import AmberTools.Proofs.CommandLine.Options
import AmberTools.Proofs.Compiler.Streamed

/-!
# Reports of the same output

The output of a compiler can be reported from a file, from the standard input and from a compiler
that is started. The standard input must be UTF-8, and the others are read with replacement
characters; all three are read with unified line breaks. So for bytes that are UTF-8 all three are
read as one text, and it has the same diagnostics as the text with its own line breaks. Neither the
compiler's name nor its exit code has a part in the report.

## Main results

* `CommandLine.reports_of_runCommand`: what a command that reports an output prints.
* `CommandLine.reports_agree`: the three ways to report an output agree.
-/

namespace AmberTools
namespace CommandLine

open Arguments

variable {s : Surroundings} {config : Given Text} {loaded settings : Settings}
  {log : List LogRecord} {executable : Given Text} {input path : Text} {bytes : List UInt8}
  {text : Text}

/-! ### Reading the output -/

theorem decode_eq (htext : Utf8.decode bytes = .ok text) :
    Source.decode bytes = .ok (Text.unifyBreaks text) := by
  rw [Source.decode, htext]
  rfl

theorem decodeLenient_eq (htext : Utf8.decode bytes = .ok text) :
    Source.decodeLenient bytes = Text.unifyBreaks text := by
  rw [Source.decodeLenient, Utf8.decodeLenient_of_decode htext]

theorem readLenient_eq {files : FileSet} {path : Path}
    (hbytes : Source.readBytes files path = .ok bytes) (htext : Utf8.decode bytes = .ok text) :
    Source.readLenient files path = .ok (Text.unifyBreaks text) := by
  rw [Source.readLenient, hbytes, ← decodeLenient_eq htext]
  rfl

/-- A compiler's name that fits has no part in how its output is read. -/
theorem exists_override_checkOverrides [Value.Writing]
    (h : executable = .omitted ∨
      ∃ name, executable = .value name ∧ WideText.allBlank name.wide = false)
    (s : Settings) (o : DiagnosticOptions) :
    ∃ settings, s.override (checkOverrides executable o) = .ok settings ∧
      settings.reading = (o.changed s).reading := by
  obtain rfl | ⟨name, rfl, hvisible⟩ := h
  · exact ⟨_, override_checkOverrides_omitted s o, rfl⟩
  · have hname : Settings.Draft.checkExecutable (overrideBy (.text ·.wide) (.value name)) =
        .ok ⟨name.wide, hvisible⟩ :=
      Settings.Draft.checkExecutable_eq_ok_iff.mpr rfl
    refine ⟨o.changed { s with executable := name.wide, executable_visible := hvisible }, ?_, rfl⟩
    rw [override_checkOverrides s o (by simp), hname]
    rfl

/-! ### Reporting it -/

/-- An outcome that prints the report of some diagnostics, with the exit code for them. -/
structure Outcome.Reports (o : Outcome) (form : ReportForm) (found : List Diagnostic) : Prop where
  output : o.output = report form found
  ending : o.ending = .exit (if found = [] then 0 else 1)

section Runs

variable [Value.Writing] [Yaml.Reader] [Formatter.Others]

/-- Settings that cannot be loaded end every command in the same way. -/
theorem runRequest_of_load_error {failure : Failure} {r : Request}
    (hload : loadSettings s.files r.config = .error failure) :
    runRequest s r = (CommandResult.failing s.files [] failure).outcome r.verbosity := by
  rw [runRequest, hload]

/-- The diagnostics of an output are reported, and its line breaks do not matter. -/
theorem reports_of_runCommand {r : Request} {form : ReportForm}
    {summary : List Diagnostic → String} {effects : Effects}
    (hload : loadSettings s.files r.config = .ok (loaded, log))
    (hrun : runCommand s loaded r.command =
      reportOutput settings form (Text.unifyBreaks text) summary effects) :
    (runRequest s r).Reports form (Compiler.parseOutput settings.reading text) where
  output := by
    simp only [runRequest, hload, hrun, reportOutput, CommandResult.outcome, Effects.behind,
      Compiler.parseOutput_unifyBreaks]
  ending := by
    simp only [runRequest, hload, hrun, reportOutput, CommandResult.outcome, Effects.behind,
      Compiler.parseOutput_unifyBreaks, reportCode, List.isEmpty_iff]
    rfl

section Ways

variable (htext : Utf8.decode bytes = .ok text)
  (hload : loadSettings s.files config = .ok (loaded, log)) (options : DiagnosticOptions)
  (verbosity : Nat)
include htext hload

theorem reports_file (hinput : input ≠ ['-'])
    (hbytes : Source.readBytes s.files (Path.ofText input) = .ok bytes) :
    (runRequest s { verbosity, config, command := .diagnostics input options }).Reports
      options.form (Compiler.parseOutput (options.changed loaded).reading text) := by
  apply reports_of_runCommand hload
  simp only [runCommand, runDiagnostics, override_diagnosticOverrides, if_neg hinput,
    readLenient_eq hbytes htext]
  rfl

theorem reports_input :
    (runRequest { s with input := bytes }
        { verbosity, config, command := .diagnostics ['-'] options }).Reports
      options.form (Compiler.parseOutput (options.changed loaded).reading text) := by
  apply reports_of_runCommand (s := { s with input := bytes }) hload
  simp only [runCommand, runDiagnostics, override_diagnosticOverrides, if_true, decode_eq htext]
  rfl

theorem reports_compiler
    (hexecutable : executable = .omitted ∨
      ∃ name, executable = .value name ∧ WideText.allBlank name.wide = false) (code : Int) :
    (runRequest { s with compiler := some ⟨bytes, code⟩ }
        { verbosity, config, command := .check path executable options }).Reports
      options.form (Compiler.parseOutput (options.changed loaded).reading text) := by
  obtain ⟨settings, hcheck, hreading⟩ := exists_override_checkOverrides hexecutable loaded options
  rw [← hreading]
  apply reports_of_runCommand (s := { s with compiler := some ⟨bytes, code⟩ }) hload
  simp only [runCommand, runCheck, hcheck, decodeLenient_eq htext]
  rfl

end Ways

/-- A file, the standard input and a compiler with the same bytes are reported alike, for any
options of the report and any settings file. If the settings can be loaded, the report is that of
the text of the bytes as it stands, under the settings that the options change. -/
theorem reports_agree (hinput : input ≠ ['-'])
    (hbytes : Source.readBytes s.files (Path.ofText input) = .ok bytes)
    (htext : Utf8.decode bytes = .ok text)
    (hexecutable : executable = .omitted ∨
      ∃ name, executable = .value name ∧ WideText.allBlank name.wide = false)
    (config : Given Text) (path : Text) (options : DiagnosticOptions) (code : Int)
    (verbosity : Nat) :
    let ofFile := runRequest s { verbosity, config, command := .diagnostics input options }
    let ofInput := runRequest { s with input := bytes }
      { verbosity, config, command := .diagnostics ['-'] options }
    let ofCompiler := runRequest { s with compiler := some ⟨bytes, code⟩ }
      { verbosity, config, command := .check path executable options }
    (ofInput.output = ofFile.output ∧ ofInput.ending = ofFile.ending) ∧
      (ofCompiler.output = ofFile.output ∧ ofCompiler.ending = ofFile.ending) ∧
      ∀ loaded log, loadSettings s.files config = .ok (loaded, log) →
        ∃ settings, loaded.override (diagnosticOverrides options) = .ok settings ∧
          ofFile.Reports options.form (Compiler.parseOutput settings.reading text) := by
  intro ofFile ofInput ofCompiler
  cases hload : loadSettings s.files config with
  | error failure =>
    have hfile : ofFile = _ := runRequest_of_load_error hload
    have hinput : ofInput = _ :=
      runRequest_of_load_error (s := { s with input := bytes }) hload
    have hcompiler : ofCompiler = _ :=
      runRequest_of_load_error (s := { s with compiler := some ⟨bytes, code⟩ }) hload
    rw [hfile, hinput, hcompiler]
    exact ⟨⟨rfl, rfl⟩, ⟨rfl, rfl⟩, nofun⟩
  | ok result =>
    obtain ⟨loaded, log⟩ := result
    have hfile := reports_file htext hload options verbosity hinput hbytes
    have hinput := reports_input htext hload options verbosity
    have hcompiler : ofCompiler.Reports options.form _ :=
      reports_compiler htext hload options verbosity hexecutable code
    refine ⟨⟨hinput.output.trans hfile.output.symm, hinput.ending.trans hfile.ending.symm⟩,
      ⟨hcompiler.output.trans hfile.output.symm, hcompiler.ending.trans hfile.ending.symm⟩, ?_⟩
    rintro loaded log ⟨⟩
    exact ⟨_, override_diagnosticOverrides loaded options, hfile⟩

end Runs

/-- An output with colours and with all three line breaks, and settings that leave the colours. -/
def colouredFiles : FileSet :=
  .ofList [("amber.yml".toList, Utf8.encode "strip_ansi: false\n".toList),
    ("log".toList, Utf8.encode "ERROR a\rat f:1:2\r\n\x1b[1mERROR b\x1b[0m\nat g:3:4\n".toList)]

/-- The coloured header is none, so only the first diagnostic is found, in all three ways. -/
theorem reports_agree_colouredFiles :
    let bytes := Utf8.encode "ERROR a\rat f:1:2\r\n\x1b[1mERROR b\x1b[0m\nat g:3:4\n".toList
    let run := fun (input : List UInt8) (compiler : Option CompilerRun) (command : Command) =>
      let o := runRequest { input, files := colouredFiles, compiler }
        { config := .value "amber.yml".toList, command }
      (o.output, o.ending)
    let shown := ("f:1:2: error: a\n".toList, Ending.exit 1)
    run [] none (.diagnostics "log".toList {}) = shown ∧
      run bytes none (.diagnostics ['-'] {}) = shown ∧
      run [] (some ⟨bytes, 0⟩) (.check "main.ab".toList (.value "amberc".toList) {}) = shown := by
  intro bytes run shown
  have hbytes : Source.readBytes colouredFiles (Path.ofText "log".toList) = .ok bytes := by
    decide +kernel
  have hload : (loadSettings colouredFiles (.value "amber.yml".toList)).toOption.map (·.1) =
      some { stripColours := false } := by decide +kernel
  obtain ⟨⟨loaded, log⟩, hresult, rfl⟩ := Option.map_eq_some_iff.mp hload
  obtain ⟨⟨houtput, hending⟩, ⟨houtput', hending'⟩, hreports⟩ := reports_agree
    (s := { files := colouredFiles }) (by decide +kernel) hbytes (Utf8.decode_encode _)
    (.inr ⟨"amberc".toList, rfl, by decide +kernel⟩) (.value "amber.yml".toList) "main.ab".toList
    {} 0 0
  obtain ⟨settings, hsettings, hfile⟩ := hreports _ _ (Settings.eq_ok_of_toOption hresult)
  obtain rfl := Except.ok.inj ((override_diagnosticOverrides _ _).symm.trans hsettings)
  have hfound : Compiler.parseOutput
      (DiagnosticOptions.changed { stripColours := false } {}).reading
      "ERROR a\rat f:1:2\r\n\x1b[1mERROR b\x1b[0m\nat g:3:4\n".toList =
        [⟨"a".toList, some "f".toList, 1, 2, Diagnostic.errorSeverity, by decide⟩] := by
    decide +kernel
  rw [hfound] at hfile
  have hshown : run [] none (.diagnostics "log".toList {}) = shown :=
    Prod.ext (hfile.output.trans (by decide +kernel)) hfile.ending
  refine ⟨hshown, ?_, ?_⟩
  · exact (Prod.ext houtput hending).trans hshown
  · exact (Prod.ext houtput' hending').trans hshown

end CommandLine
end AmberTools
