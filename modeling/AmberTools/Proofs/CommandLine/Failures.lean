import AmberTools.Proofs.CommandLine.Reports

/-!
# Findings and failures

A request finds something, fails, or does neither. It finds something if there is a diagnostic in
the output that it reports, or if the file that it checks is to be reindented. It fails if its
settings cannot be loaded or overridden, if its input or its source cannot be read, if a formatter
gives no text, or if the compiler cannot be started. Every run is one of the three, and ends
accordingly.

## Main definitions

* `CommandLine.Finds`: a request finds something to report.
* `CommandLine.Fails`: a request fails, for a reason.
* `CommandLine.Failure.ending`: the end of a run that fails.

## Main results

* `CommandLine.Finds.ending`, `CommandLine.Fails.ending`: how such runs end.
* `CommandLine.covered`: all other runs have nothing to report.
-/

namespace AmberTools
namespace CommandLine

open Arguments

/-! ### Findings and failures -/

/-- The overrides that a command asks for. -/
def Command.overrides : Command → List (Text × Value)
  | .diagnostics _ options => diagnosticOverrides options
  | .indent _ _ unit => unitOverrides unit
  | .highlight _ _ => []
  | .check _ executable options => checkOverrides executable options

/-- The source file of a command that reads one. -/
def Command.source? : Command → Option Text
  | .indent path _ _ => some path
  | .highlight path _ => some path
  | _ => none

section Requests

variable [Value.Writing] [Yaml.Reader]

/-- Settings that are in force for a request: those that it names, with its overrides. -/
def InForce (s : Surroundings) (r : Request) (settings : Settings) : Prop :=
  ∃ loaded log, loadSettings s.files r.config = .ok (loaded, log) ∧
    loaded.override r.command.overrides = .ok settings

/-- A request finds something: a diagnostic in an output, or a file to be reindented. -/
inductive Finds (s : Surroundings) (r : Request) : Prop
  | input {settings : Settings} {options : DiagnosticOptions} {text : Text}
      (hr : r.command = .diagnostics ['-'] options) (hsettings : InForce s r settings)
      (htext : Source.decode s.input = .ok text)
      (h : Compiler.parseOutput settings.reading text ≠ [])
  | file {settings : Settings} {path : Text} {options : DiagnosticOptions} {text : Text}
      (hr : r.command = .diagnostics path options) (hpath : path ≠ ['-'])
      (hsettings : InForce s r settings)
      (htext : Source.readLenient s.files (Path.ofText path) = .ok text)
      (h : Compiler.parseOutput settings.reading text ≠ [])
  | compiler {settings : Settings} {path : Text} {executable : Given Text}
      {options : DiagnosticOptions} {run : CompilerRun}
      (hr : r.command = .check path executable options) (hsettings : InForce s r settings)
      (hrun : s.compiler = some run)
      (h : Compiler.parseOutput settings.reading (Source.decodeLenient run.output) ≠ [])
  | layout {settings : Settings} {path : Text} {unit : Given Int} {text : Text}
      (hr : r.command = .indent path .check unit) (hsettings : InForce s r settings)
      (htext : Source.read s.files (Path.ofText path) = .ok text)
      (h : Reindent.reindent settings.indentUnit text ≠ text)

/-- A request fails. -/
inductive Fails [Formatter.Others] (s : Surroundings) (r : Request) : Failure → Prop
  /-- The settings that it names cannot be loaded. -/
  | loading {failure : Failure} (h : loadSettings s.files r.config = .error failure) :
      Fails s r failure
  | overriding {loaded : Settings} {log : List LogRecord} {fault : Settings.OverrideFault}
      (hload : loadSettings s.files r.config = .ok (loaded, log))
      (h : loaded.override r.command.overrides = .error fault) : Fails s r (.ofOverride fault)
  /-- The standard input is not UTF-8. -/
  | input {settings : Settings} {options : DiagnosticOptions} {fault : Utf8.Fault}
      (hr : r.command = .diagnostics ['-'] options) (hsettings : InForce s r settings)
      (h : Source.decode s.input = .error fault) : Fails s r (.encoding fault)
  /-- The output cannot be read. -/
  | file {settings : Settings} {path : Text} {options : DiagnosticOptions} {fault : ReadFault}
      (hr : r.command = .diagnostics path options) (hpath : path ≠ ['-'])
      (hsettings : InForce s r settings)
      (h : Source.readLenient s.files (Path.ofText path) = .error fault) :
      Fails s r (.ofRead fault)
  /-- The source cannot be read, or is not UTF-8. -/
  | source {settings : Settings} {path : Text} {fault : ReadFault}
      (hr : r.command.source? = some path) (hsettings : InForce s r settings)
      (h : Source.read s.files (Path.ofText path) = .error fault) : Fails s r (.ofRead fault)
  /-- There is no formatter, or it fails. -/
  | formatter {settings : Settings} {path text : Text} {name : Option Text}
      {fault : Formatter.Fault}
      (hr : r.command = .highlight path name) (hsettings : InForce s r settings)
      (htext : Source.read s.files (Path.ofText path) = .ok text)
      (h : highlightBy name text = .error fault) : Fails s r (.ofFormatter fault)
  /-- The formatter gives no text. -/
  | bytes {settings : Settings} {path text shown : Text} {name : Option Text}
      (hr : r.command = .highlight path name) (hsettings : InForce s r settings)
      (htext : Source.read s.files (Path.ofText path) = .ok text)
      (h : highlightBy name text = .ok (.bytes shown)) : Fails s r (.escape .bytesAsText)
  /-- The compiler cannot be started. -/
  | compiler {settings : Settings} {path : Text} {executable : Given Text}
      {options : DiagnosticOptions}
      (hr : r.command = .check path executable options) (hsettings : InForce s r settings)
      (h : s.compiler = none) :
      Fails s r (startFailure s.files settings.executable
        (Compiler.command settings (Path.ofText path).text none))

end Requests

/-! ### Ends of runs -/

/-- The end of a run that fails. -/
def Failure.ending : Failure → Ending
  | .escape e => .escaped e
  | _ => .exit 2

/-- The end of a run by its result. -/
def Ending.of : Except Failure Nat → Ending
  | .ok code => .exit code
  | .error failure => failure.ending

theorem outcome_ending (verbosity : Nat) (done : CommandResult) :
    (done.outcome verbosity).ending = .of done.result := by
  unfold CommandResult.outcome
  cases done.result with
  | ok code => rfl
  | error failure => cases failure <;> rfl

variable [Value.Writing] [Yaml.Reader] [Formatter.Others] {s : Surroundings} {r : Request}
  {settings : Settings} {failure : Failure}

/-- A request for which settings are in force ends as its command does. -/
theorem ending_of_inForce (h : InForce s r settings) :
    ∃ loaded, loaded.override r.command.overrides = .ok settings ∧
      (runRequest s r).ending = .of (runCommand s loaded r.command).result := by
  obtain ⟨loaded, log, hload, hsettings⟩ := h
  refine ⟨loaded, hsettings, ?_⟩
  simp only [runRequest, hload]
  exact outcome_ending r.verbosity _

section Commands

variable {path : Text} {options : DiagnosticOptions} {executable : Given Text} {unit : Given Int}
  {mode : IndentMode} {name : Option Text} (hsettings : InForce s r settings)
include hsettings

theorem ending_input (hr : r.command = .diagnostics ['-'] options) :
    (runRequest s r).ending =
      .of (((Source.decode s.input).mapError .encoding).map fun text =>
        reportCode (Compiler.parseOutput settings.reading text)) := by
  obtain ⟨loaded, hoverride, hending⟩ := ending_of_inForce hsettings
  simp only [hr, Command.overrides] at hoverride
  simp only [hending, hr, runCommand, runDiagnostics, hoverride, if_true]
  cases Source.decode s.input <;> rfl

theorem ending_file (hr : r.command = .diagnostics path options) (hpath : path ≠ ['-']) :
    (runRequest s r).ending =
      .of (((Source.readLenient s.files (Path.ofText path)).mapError .ofRead).map fun text =>
        reportCode (Compiler.parseOutput settings.reading text)) := by
  obtain ⟨loaded, hoverride, hending⟩ := ending_of_inForce hsettings
  simp only [hr, Command.overrides] at hoverride
  simp only [hending, hr, runCommand, runDiagnostics, hoverride, if_neg hpath]
  cases Source.readLenient s.files (Path.ofText path) <;> rfl

theorem ending_check (hr : r.command = .check path executable options) :
    (runRequest s r).ending =
      .of (match s.compiler with
        | none => .error (startFailure s.files settings.executable
            (Compiler.command settings (Path.ofText path).text none))
        | some run =>
          .ok (reportCode
            (Compiler.parseOutput settings.reading (Source.decodeLenient run.output)))) := by
  obtain ⟨loaded, hoverride, hending⟩ := ending_of_inForce hsettings
  simp only [hr, Command.overrides] at hoverride
  simp only [hending, hr, runCommand, runCheck, hoverride]
  cases s.compiler <;> rfl

theorem ending_indent (hr : r.command = .indent path mode unit) :
    (runRequest s r).ending =
      .of (((Source.read s.files (Path.ofText path)).mapError .ofRead).map fun text =>
        if mode = .check ∧ Reindent.reindent settings.indentUnit text ≠ text then 1 else 0) := by
  obtain ⟨loaded, hoverride, hending⟩ := ending_of_inForce hsettings
  simp only [hr, Command.overrides] at hoverride
  simp only [hending, hr, runCommand, runIndent, hoverride]
  cases Source.read s.files (Path.ofText path) with
  | error fault => rfl
  | ok text =>
    have hchanged : (Reindent.run settings text).changed = true ↔
        Reindent.reindent settings.indentUnit text ≠ text := bne_iff_ne
    by_cases h : Reindent.reindent settings.indentUnit text = text
    · cases mode <;> simp [finishIndent, hchanged, h, Except.mapError, Except.map, exitOkay]
    · cases mode <;>
        simp [finishIndent, hchanged, h, Except.mapError, Except.map, exitOkay, exitFindings]

theorem ending_highlight (hr : r.command = .highlight path name) :
    (runRequest s r).ending =
      .of (match Source.read s.files (Path.ofText path) with
        | .error fault => .error (.ofRead fault)
        | .ok text =>
          match highlightBy name text with
          | .error fault => .error (.ofFormatter fault)
          | .ok (.bytes _) => .error (.escape .bytesAsText)
          | .ok (.text _) => .ok 0) := by
  obtain ⟨loaded, -, hending⟩ := ending_of_inForce hsettings
  simp only [hending, hr, runCommand, runHighlight]
  cases Source.read s.files (Path.ofText path) with
  | error fault => rfl
  | ok text =>
    dsimp only
    cases highlightBy name text with
    | error fault => rfl
    | ok rendering => cases rendering <;> rfl

end Commands

/-- A request whose overrides do not fit ends with their failure. -/
theorem ending_of_override_error {loaded : Settings} {log : List LogRecord}
    {fault : Settings.OverrideFault} (hload : loadSettings s.files r.config = .ok (loaded, log))
    (h : loaded.override r.command.overrides = .error fault) :
    (runRequest s r).ending = (Failure.ofOverride fault).ending := by
  have hending : (runRequest s r).ending = .of (runCommand s loaded r.command).result := by
    simp only [runRequest, hload]
    exact outcome_ending r.verbosity _
  rw [hending]
  cases hcommand : r.command with
  | highlight path name =>
    simp [hcommand, Command.overrides, Settings.override] at h
  | _ =>
    simp only [hcommand, Command.overrides] at h
    simp only [runCommand, runDiagnostics, runIndent, runCheck, h]
    rfl

/-- A request that finds something ends with the exit code for it. -/
theorem Finds.ending (h : Finds s r) : (runRequest s r).ending = .exit 1 := by
  have hcode {found : List Diagnostic} (h : found ≠ []) : reportCode found = 1 := by
    rw [reportCode, if_neg (by simpa using h)]
    rfl
  cases h with
  | input hr hsettings htext h =>
    rw [ending_input hsettings hr, htext]
    exact congrArg Ending.exit (hcode h)
  | file hr hpath hsettings htext h =>
    rw [ending_file hsettings hr hpath, htext]
    exact congrArg Ending.exit (hcode h)
  | compiler hr hsettings hrun h =>
    rw [ending_check hsettings hr, hrun]
    exact congrArg Ending.exit (hcode h)
  | layout hr hsettings htext h =>
    rw [ending_indent hsettings hr, htext]
    exact congrArg Ending.exit (if_pos ⟨rfl, h⟩)

/-- A request that fails ends as the failure does. -/
theorem Fails.ending (h : Fails s r failure) : (runRequest s r).ending = failure.ending := by
  cases h with
  | loading h =>
    rw [runRequest_of_load_error h]
    exact outcome_ending _ _
  | overriding hload h => exact ending_of_override_error hload h
  | input hr hsettings h =>
    rw [ending_input hsettings hr, h]
    rfl
  | file hr hpath hsettings h =>
    rw [ending_file hsettings hr hpath, h]
    rfl
  | source hr hsettings h =>
    cases hcommand : r.command with
    | indent path mode unit =>
      rw [hcommand] at hr
      obtain rfl := Option.some.inj hr
      rw [ending_indent hsettings hcommand, h]
      rfl
    | highlight path name =>
      rw [hcommand] at hr
      obtain rfl := Option.some.inj hr
      rw [ending_highlight hsettings hcommand, h]
      rfl
    | _ =>
      rw [hcommand] at hr
      exact nomatch hr
  | formatter hr hsettings htext h =>
    rw [ending_highlight hsettings hr, htext]
    dsimp only
    rw [h]
    rfl
  | bytes hr hsettings htext h =>
    rw [ending_highlight hsettings hr, htext]
    dsimp only
    rw [h]
    rfl
  | compiler hr hsettings h =>
    rw [ending_check hsettings hr, h]
    rfl

/-! ### Runs without findings and failures -/

/-- A run that finds something, fails, or has nothing to report. -/
def Covered (s : Surroundings) (r : Request) : Prop :=
  Finds s r ∨ (∃ failure, Fails s r failure) ∨ (runRequest s r).ending = .exit 0

/-- A run that reports diagnostics is covered, whether there are any or none. -/
theorem covered_of_report {found : List Diagnostic}
    (hending : (runRequest s r).ending = .exit (reportCode found))
    (hfinds : found ≠ [] → Finds s r) : Covered s r := by
  by_cases h : found = []
  · subst h
    exact .inr (.inr hending)
  · exact .inl (hfinds h)

section Covered

variable {path : Text} {options : DiagnosticOptions} {executable : Given Text} {unit : Given Int}
  {mode : IndentMode} {name : Option Text} (hsettings : InForce s r settings)
include hsettings

theorem covered_input (hr : r.command = .diagnostics ['-'] options) : Covered s r := by
  cases htext : Source.decode s.input with
  | error fault => exact .inr (.inl ⟨_, .input hr hsettings htext⟩)
  | ok text =>
    refine covered_of_report ?_ (.input hr hsettings htext)
    rw [ending_input hsettings hr, htext]
    rfl

theorem covered_file (hr : r.command = .diagnostics path options) (hpath : path ≠ ['-']) :
    Covered s r := by
  cases htext : Source.readLenient s.files (Path.ofText path) with
  | error fault => exact .inr (.inl ⟨_, .file hr hpath hsettings htext⟩)
  | ok text =>
    refine covered_of_report ?_ (.file hr hpath hsettings htext)
    rw [ending_file hsettings hr hpath, htext]
    rfl

theorem covered_check (hr : r.command = .check path executable options) : Covered s r := by
  cases hrun : s.compiler with
  | none => exact .inr (.inl ⟨_, .compiler hr hsettings hrun⟩)
  | some run =>
    refine covered_of_report ?_ (.compiler hr hsettings hrun)
    rw [ending_check hsettings hr, hrun]
    rfl

theorem covered_indent (hr : r.command = .indent path mode unit) : Covered s r := by
  cases htext : Source.read s.files (Path.ofText path) with
  | error fault => exact .inr (.inl ⟨_, .source (congrArg Command.source? hr) hsettings htext⟩)
  | ok text =>
    by_cases h : mode = .check ∧ Reindent.reindent settings.indentUnit text ≠ text
    · obtain ⟨rfl, h⟩ := h
      exact .inl (.layout hr hsettings htext h)
    · refine .inr (.inr ?_)
      rw [ending_indent hsettings hr, htext]
      exact congrArg Ending.exit (if_neg h)

theorem covered_highlight (hr : r.command = .highlight path name) : Covered s r := by
  cases htext : Source.read s.files (Path.ofText path) with
  | error fault => exact .inr (.inl ⟨_, .source (congrArg Command.source? hr) hsettings htext⟩)
  | ok text =>
    cases hshown : highlightBy name text with
    | error fault => exact .inr (.inl ⟨_, .formatter hr hsettings htext hshown⟩)
    | ok rendering =>
      cases rendering with
      | bytes shown => exact .inr (.inl ⟨_, .bytes hr hsettings htext hshown⟩)
      | text shown =>
        refine .inr (.inr ?_)
        rw [ending_highlight hsettings hr, htext]
        dsimp only
        rw [hshown]
        rfl

end Covered

/-- A run that neither finds something nor fails has nothing to report. -/
theorem covered (s : Surroundings) (r : Request) : Covered s r := by
  cases hload : loadSettings s.files r.config with
  | error failure => exact .inr (.inl ⟨failure, .loading hload⟩)
  | ok result =>
    cases hoverride : result.1.override r.command.overrides with
    | error fault => exact .inr (.inl ⟨_, .overriding hload hoverride⟩)
    | ok settings =>
      have hsettings : InForce s r settings := ⟨_, _, hload, hoverride⟩
      cases hr : r.command with
      | diagnostics path options =>
        by_cases hpath : path = ['-']
        · subst hpath
          exact covered_input hsettings hr
        · exact covered_file hsettings hr hpath
      | check path executable options => exact covered_check hsettings hr
      | indent path mode unit => exact covered_indent hsettings hr
      | highlight path name => exact covered_highlight hsettings hr

end CommandLine
end AmberTools
