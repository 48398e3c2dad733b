import AmberTools.CommandLine.Outcome
import AmberTools.CommandLine.Request
import AmberTools.Compiler.Command
import AmberTools.Diagnostic.Report
import AmberTools.Reindent

/-!
# Running a command line

A run takes the words of the command line, the standard input and the files, and says what
becomes of them. Compiling needs a compiler: either one whose output and exit code are known, or
none, in which case the command is looked for among the files and cannot be started. How YAML texts
are read, which values can be written, and which formatters there are besides those that are
described here is not looked into.
-/

namespace AmberTools
namespace CommandLine

variable [Value.Writing] [Yaml.Reader] [Formatter.Others]

/-- What a compiler writes, on both of its outputs in order, and the code with which it exits. -/
structure CompilerRun where
  output : List UInt8
  code : Int
  deriving DecidableEq, Repr

/-- The surroundings of a run. -/
structure Surroundings where
  input : List UInt8 := []
  files : FileSet := {}
  compiler : Option CompilerRun := none

/-- The records of abandoned diagnostics. -/
def scannerLog (events : List Compiler.Event) : List LogRecord :=
  events.map fun e => ⟨.debug, scannerSource, .ofString e.message⟩

/-- The report of diagnostics in a form. -/
def report (form : ReportForm) (ds : List Diagnostic) : Text :=
  match form with
  | .text => Diagnostic.textReport ds
  | .json => Diagnostic.jsonReport ds

/-- The exit code for diagnostics. -/
def reportCode (ds : List Diagnostic) : Nat := if ds.isEmpty then exitOkay else exitFindings

/-- The overrides that diagnostic options ask for. -/
def diagnosticOverrides (o : DiagnosticOptions) : List (Text × Value) :=
  [(Settings.Field.stripColours.name, if o.keepColours then .bool false else .null),
   (Settings.Field.unlocated.name,
    if o.keepUnlocated then .text Compiler.UnlocatedPolicy.keep.name.wide else .null)]

/-- The result of reporting the diagnostics of an output, with a record of their number. -/
def reportOutput (settings : Settings) (form : ReportForm) (output : Text)
    (summary : List Diagnostic → String) (effects : Effects) : CommandResult :=
  let ds := Compiler.parseOutput settings.reading output
  let events := Compiler.eventsOfLines settings.reading (Compiler.outputLines output)
  let log := scannerLog events ++ [⟨.info, mainSource, .ofString (summary ds)⟩]
  ⟨{ effects with output := report form ds, log := effects.log ++ log }, .ok (reportCode ds)⟩

/-- The command `diagnostics`. -/
def runDiagnostics (s : Surroundings) (settings : Settings) (input : Text)
    (options : DiagnosticOptions) : CommandResult :=
  match settings.override (diagnosticOverrides options) with
  | .error fault => .failing s.files [] (.ofOverride fault)
  | .ok settings =>
    let output :=
      if input = ['-'] then (Source.decode s.input).mapError Failure.encoding
      else (Source.readLenient s.files (Path.ofText input)).mapError Failure.ofRead
    match output with
    | .error failure => .failing s.files [] failure
    | .ok output =>
      reportOutput settings options.form output (fun ds => s!"Found {ds.length} diagnostics")
        { files := s.files }

/-- What an option overrides a setting by: by nothing if it is left out, and by an empty list if
it has no value. -/
def overrideBy {α : Type} (toValue : α → Value) : Arguments.Given α → Value
  | .omitted => .null
  | .empty => .list []
  | .value a => toValue a

/-- The overrides that an indentation unit asks for. -/
def unitOverrides (unit : Arguments.Given Int) : List (Text × Value) :=
  [(Settings.Field.indentUnit.name, overrideBy .int unit)]

/-- What becomes of a reindented file. -/
def finishIndent (files : FileSet) (path : Path) (mode : IndentMode) (o : Reindent.Outcome) :
    CommandResult :=
  let log : List LogRecord := [⟨.debug, reindentSource, .ofString o.record⟩]
  match mode with
  | .print => ⟨{ files, log, output := o.formatted }, .ok exitOkay⟩
  | .check =>
    if o.changed then
      ⟨{ files, log, output := "would reindent ".toList ++ path.text ++ ['\n'] },
        .ok exitFindings⟩
    else ⟨{ files, log }, .ok exitOkay⟩
  | .inPlace =>
    if o.changed then
      let done : LogRecord :=
        ⟨.info, mainSource, .ofString s!"Reindented {String.ofList path.text}"⟩
      ⟨{ files := files.write path (Utf8.encode o.formatted), log := log ++ [done] },
        .ok exitOkay⟩
    else ⟨{ files, log }, .ok exitOkay⟩

/-- The command `indent`. -/
def runIndent (s : Surroundings) (settings : Settings) (path : Text) (mode : IndentMode)
    (unit : Arguments.Given Int) : CommandResult :=
  match settings.override (unitOverrides unit) with
  | .error fault => .failing s.files [] (.ofOverride fault)
  | .ok settings =>
    match Source.read s.files (Path.ofText path) with
    | .error fault => .failing s.files [] (.ofRead fault)
    | .ok source => finishIndent s.files (Path.ofText path) mode (Reindent.run settings source)

/-- A source in colours by the formatter that is named; there is none without a name. -/
def highlightBy (formatter : Option Text) (source : Text) :
    Except Formatter.Fault Formatter.Rendering :=
  match formatter with
  | none => .error (.unknown (.list []))
  | some name => highlight source name []

/-- The command `highlight`. -/
def runHighlight (s : Surroundings) (path : Text) (formatter : Option Text) : CommandResult :=
  match Source.read s.files (Path.ofText path) with
  | .error fault => .failing s.files [] (.ofRead fault)
  | .ok source =>
    match highlightBy formatter source with
    | .error fault => .failing s.files [] (.ofFormatter fault)
    | .ok (.bytes _) => .failing s.files [] (.escape .bytesAsText)
    | .ok (.text shown) => ⟨{ files := s.files, output := shown }, .ok exitOkay⟩

/-- Why a program that no run is known of cannot be started. A name without a slash is looked for
in directories elsewhere, which hold no such program, but do lead to themselves and to what is above
them; any other is followed, and what it leads to is not a program. -/
def startFault (files : FileSet) (executable : Text) : FileFault :=
  if executable = ".".toList ∨ executable = "..".toList then .denied
  else if !executable.contains '/' then
    if FileSet.longestName < (Utf8.encode executable).length then .nameTooLong else .missing
  else match files.find (Path.ofText executable) with
    | .error fault => fault
    | .ok (_, .directory) => .denied
    | .ok (_, .file _) => if executable.getLast? = some '/' then .notDirectory else .denied

/-- The failure to start a command. -/
def startFailure (files : FileSet) (executable : WideText) (command : List WideText) : Failure :=
  match FileName.bytes executable with
  | .error fault => .escape (.unencodable fault)
  | .ok name =>
    if command.any (·.contains (.char '\x00')) then .escape .nullCharacter
    else match startFault files (Utf8.decodeLenient name) with
      | .missing => .compilerMissing executable
      | fault => .compilerUnusable fault executable

/-- The overrides that the command `check` asks for. -/
def checkOverrides (executable : Arguments.Given Text) (options : DiagnosticOptions) :
    List (Text × Value) :=
  (Settings.Field.executable.name, overrideBy (.text ·.wide) executable) ::
    diagnosticOverrides options

/-- The command `check`. -/
def runCheck (s : Surroundings) (settings : Settings) (path : Text)
    (executable : Arguments.Given Text) (options : DiagnosticOptions) : CommandResult :=
  match settings.override (checkOverrides executable options) with
  | .error fault => .failing s.files [] (.ofOverride fault)
  | .ok settings =>
    let command := Compiler.command settings (Path.ofText path).text none
    let words := WideText.joinWith [.char ' '] command
    let effects : Effects :=
      { files := s.files, started := [command],
        log := [⟨.info, mainSource, WideText.ofString "Running " ++ words⟩] }
    match s.compiler with
    | none => ⟨effects, .error (startFailure s.files settings.executable command)⟩
    | some run =>
      reportOutput settings options.form (Source.decodeLenient run.output)
        (fun ds => s!"Compiler exited with {run.code}, {ds.length} diagnostics") effects

/-- A command under given settings. -/
def runCommand (s : Surroundings) (settings : Settings) : Command → CommandResult
  | .diagnostics input options => runDiagnostics s settings input options
  | .indent path mode unit => runIndent s settings path mode unit
  | .highlight path formatter => runHighlight s path formatter
  | .check path executable options => runCheck s settings path executable options

/-- The settings of a run and the record of loading them. -/
def loadSettings (files : FileSet) (config : Arguments.Given Text) :
    Except Failure (Settings × List LogRecord) :=
  match config with
  | .omitted => .ok (Settings.default, [])
  | .empty => .error (.escape .settingsUnnamed)
  | .value path =>
    let path := Path.ofText path
    match Settings.load files path with
    | .error fault => .error (.ofLoad fault)
    | .ok loaded =>
      .ok (loaded.settings, [⟨.debug, settingsSource, .ofString (loaded.record path)⟩])

/-- What a request leads to. -/
def runRequest (s : Surroundings) (r : Request) : Outcome :=
  let result :=
    match loadSettings s.files r.config with
    | .error failure => CommandResult.failing s.files [] failure
    | .ok (settings, log) =>
      let done := runCommand s settings r.command
      { done with effects := done.effects.behind log }
  result.outcome r.verbosity

end CommandLine
end AmberTools
