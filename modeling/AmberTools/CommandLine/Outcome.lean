import AmberTools.Files.FileName
import AmberTools.Highlight.Formatter
import AmberTools.Settings.Load

/-!
# Outcomes

A run writes to the standard output, keeps a log, may overwrite a file, and ends with an exit code:
nought if there is nothing to report, one if there is, two if something failed. A few failures
are not foreseen, and end the run without a code.
-/

namespace AmberTools
namespace CommandLine

/-- The levels of log records. -/
inductive LogLevel where
  | debug
  | info
  | error
  deriving DecidableEq, Repr

/-- The word for a level. -/
def LogLevel.name : LogLevel → String
  | debug => "DEBUG"
  | info => "INFO"
  | error => "ERROR"

/-- The least verbosity that shows a level. -/
def LogLevel.verbosity : LogLevel → Nat
  | debug => 2
  | info => 1
  | error => 0

/-- A record of the log with the part of the program that wrote it. -/
structure LogRecord where
  level : LogLevel
  source : String
  message : WideText
  deriving DecidableEq, Repr

/-- The line of a record, in characters. -/
def LogRecord.line (r : LogRecord) : Text :=
  s!"{r.level.name} {r.source}: ".toList ++ WideText.shown r.message ++ ['\n']

/-- The lines of the records that a verbosity shows. -/
def shownLog (verbosity : Nat) (records : List LogRecord) : Text :=
  (records.filter fun r => r.level.verbosity ≤ verbosity).flatMap LogRecord.line

/-- The part of the program that writes about a run as a whole. -/
def mainSource : String := "amberpy"

/-- The part that reads settings. -/
def settingsSource : String := "amberpy.config"

/-- The part that scans compiler output. -/
def scannerSource : String := "amberpy.compiler.parser"

/-- The part that reindents. -/
def reindentSource : String := "amberpy.format.runner"

/-- The failures that end a run without an exit code. -/
inductive Escape where
  | nullCharacter
  /-- A name for which there are no bytes. -/
  | unencodable (fault : FileName.Fault)
  /-- The reader of a settings file stops, and not at the form of the text. -/
  | reader (fault : Yaml.Fault)
  /-- A setting that cannot be shown. -/
  | unwritable (reason : Value.Unwritable)
  /-- Settings are wanted from a file that is not named. -/
  | settingsUnnamed
  | formatter (fault : Formatter.Fault)
  /-- A formatter gave bytes where a text is written. -/
  | bytesAsText

/-- Why a command fails. -/
inductive Failure where
  | settings (fault : Settings.LoadFault)
  | file (fault : FileFault) (path : Text)
  | encoding (fault : Utf8.Fault)
  | compilerMissing (executable : WideText)
  | compilerUnusable (fault : FileFault) (executable : WideText)
  /-- A formatter fails in the way in which files do. -/
  | formatter (record : WideText)
  | escape (e : Escape)

namespace Failure

/-- The failure of loading settings. -/
def ofLoad : Settings.LoadFault → Failure
  | .encoding fault => .encoding fault
  | .nullCharacter => .escape .nullCharacter
  | .reader fault => .escape (.reader fault)
  | .invalid (.unwritable reason) => .escape (.unwritable reason)
  | fault => .settings fault

/-- The failure of overriding settings by values of the right kinds. -/
def ofOverride : Settings.OverrideFault → Failure
  | .unknownField => .settings (.invalid (.unknownKeys []))
  | .invalid fault => ofLoad (.invalid fault)

/-- The failure of reading a text. -/
def ofRead : ReadFault → Failure
  | .file fault path => .file fault path
  | .encoding fault => .encoding fault
  | .nullCharacter => .escape .nullCharacter

/-- The failure of showing a source. -/
def ofFormatter : Formatter.Fault → Failure
  | .foreseen record => .formatter record
  | fault => .escape (.formatter fault)

/-- The wording of a failure that has an exit code. -/
def message : Failure → WideText
  | .settings fault => fault.message
  | .file fault path => .ofString (fault.message path)
  | .encoding fault => .ofString s!"Input is not valid UTF-8: {fault.message}"
  | .compilerMissing executable =>
    WideText.ofString "Compiler executable not found: " ++ executable
  | .compilerUnusable fault executable => .ofString (fault.messageAt executable)
  | .formatter record => record
  | .escape _ => []

end Failure

/-- How a run ends. -/
inductive Ending where
  | exit (code : Nat)
  | escaped (e : Escape)

/-- The status with which the program ends. One that ends by an escape gives one. -/
def Ending.status : Ending → Nat
  | exit code => code
  | escaped _ => 1

/-- Nothing to report. -/
def exitOkay : Nat := 0

/-- Something to report. -/
def exitFindings : Nat := 1

/-- Something failed. -/
def exitFailure : Nat := 2

/-- What a command has done. -/
structure Effects where
  output : Text := []
  log : List LogRecord := []
  files : FileSet
  /-- The commands that were to be started. -/
  started : List (List WideText) := []

/-- The effects with further records in front. -/
def Effects.behind (e : Effects) (records : List LogRecord) : Effects :=
  { e with log := records ++ e.log }

/-- A command's effects and its exit code or failure. -/
structure CommandResult where
  effects : Effects
  result : Except Failure Nat

/-- A command that has done nothing but write records, and fails. -/
def CommandResult.failing (files : FileSet) (log : List LogRecord) (f : Failure) :
    CommandResult := ⟨{ files, log }, .error f⟩

/-- What a run has done. -/
structure Outcome where
  output : Text
  errorOutput : Text
  files : FileSet
  started : List (List WideText)
  ending : Ending

/-- The outcome of a command; a foreseen failure is a record and an exit code. -/
def CommandResult.outcome (verbosity : Nat) (r : CommandResult) : Outcome :=
  let finish := fun (log : List LogRecord) (ending : Ending) =>
    Outcome.mk r.effects.output (shownLog verbosity (r.effects.log ++ log)) r.effects.files
      r.effects.started ending
  match r.result with
  | .ok code => finish [] (.exit code)
  | .error (.escape e) => finish [] (.escaped e)
  | .error failure => finish [⟨.error, mainSource, failure.message⟩] (.exit exitFailure)

end CommandLine
end AmberTools
