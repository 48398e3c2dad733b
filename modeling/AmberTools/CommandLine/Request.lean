import AmberTools.Arguments.Given
import AmberTools.Arguments.Reading
import AmberTools.Compiler.Scanner
import AmberTools.Decimal.Numeral

/-!
# Requests

A command line asks for one of four commands: to report the diagnostics of compiler output, to
reindent a file, to show a file in colours, or to compile a file and report its diagnostics.
Options before the command hold for all of them.
-/

namespace AmberTools
namespace CommandLine

open Arguments

/-- The forms of a report. -/
inductive ReportForm where
  | text
  | json
  deriving DecidableEq, Repr

/-- How diagnostics are found and reported. -/
structure DiagnosticOptions where
  form : ReportForm := .text
  /-- Whether colours stay in the output. -/
  keepColours : Bool := false
  keepUnlocated : Bool := false
  deriving DecidableEq, Repr

/-- What becomes of a reindented text. -/
inductive IndentMode where
  | print
  | inPlace
  | check
  deriving DecidableEq, Repr

/-- A command. A formatter that is given without a name is none. -/
inductive Command where
  /-- Reports the diagnostics of a file, or of the standard input under the name of a hyphen. -/
  | diagnostics (input : Text) (options : DiagnosticOptions)
  | indent (path : Text) (mode : IndentMode) (unit : Given Int)
  | highlight (path : Text) (formatter : Option Text)
  | check (path : Text) (executable : Given Text) (options : DiagnosticOptions)
  deriving DecidableEq, Repr

/-- A command with the options that hold for all commands. -/
structure Request where
  verbosity : Nat := 0
  config : Given Text := .omitted
  command : Command
  deriving DecidableEq, Repr

/-- What a command line asks for. -/
inductive Asked where
  | request (r : Request)
  | help
  /-- The command line does not fit. -/
  | misuse
  deriving DecidableEq, Repr

/-! ### Options -/

/-- The option that asks for help. -/
def helpOption : OptionSpec := { names := ["-h".toList, "--help".toList] }

/-- The option that raises verbosity. -/
def verboseOption : OptionSpec := { names := ["-v".toList, "--verbose".toList] }

/-- A long option with or without a value. -/
def long (name : String) (takesValue : Bool) : OptionSpec :=
  { names := [separator ++ name.toList], takesValue }

/-- The option that names a settings file. -/
def configOption : OptionSpec := long "config" true

/-- The option that chooses the form of a report. -/
def formatOption : OptionSpec := long "format" true

/-- The option that leaves colours in compiler output. -/
def keepColoursOption : OptionSpec := long "no-strip-ansi" false

/-- The option that keeps diagnostics without a place. -/
def keepUnlocatedOption : OptionSpec := long "keep-unlocated" false

/-- The option that writes the new layout into the file. -/
def inPlaceOption : OptionSpec := long "in-place" false

/-- The option that only tells whether a file would change. -/
def checkOption : OptionSpec := long "check" false

/-- The option for the columns of a level. -/
def indentUnitOption : OptionSpec := long "indent-unit" true

/-- The option that chooses a formatter. -/
def formatterOption : OptionSpec := long "formatter" true

/-- The option that names the compiler. -/
def executableOption : OptionSpec := long "executable" true

/-- The options and the command of the whole command line. -/
def grammar : Grammar := ⟨[helpOption, verboseOption, configOption], .command⟩

/-- The options of commands that report diagnostics. -/
def reportOptions : List OptionSpec := [formatOption, keepColoursOption, keepUnlocatedOption]

/-- What follows the command `diagnostics`. -/
def diagnosticsGrammar : Grammar := ⟨helpOption :: reportOptions, .optional⟩

/-- What follows the command `indent`. -/
def indentGrammar : Grammar :=
  ⟨[helpOption, inPlaceOption, checkOption, indentUnitOption], .required⟩

/-- What follows the command `highlight`. -/
def highlightGrammar : Grammar := ⟨[helpOption, formatterOption], .required⟩

/-- What follows the command `check`. -/
def checkGrammar : Grammar := ⟨helpOption :: executableOption :: reportOptions, .required⟩

/-! ### Reading -/

/-- Why reading ends before the last occurrence. -/
inductive Halt where
  | help
  | misuse
  deriving DecidableEq, Repr

/-- The outcome of a halt. -/
def Halt.asked : Halt → Asked
  | .help => .help
  | .misuse => .misuse

/-- The state after all occurrences of a reading, which must be complete; asking for help ends
reading at once. -/
def foldReading {σ : Type} (reading : Reading) (start : σ)
    (step : σ → OptionSpec → Option Text → Except Halt σ) (operand : σ → Text → σ) :
    Except Halt σ := do
  let final ← reading.occurrences.foldlM (fun s occurrence =>
    match occurrence with
    | .option spec value => if spec = helpOption then throw .help else step s spec value
    | .operand value => pure (operand s value)
    | .command _ _ => throw .misuse) start
  if reading.complete then return final else throw .misuse

/-- An integer on a command line. -/
def readInteger? (text : Text) : Option Int :=
  if 4300 < Numeral.digitCount text then none else Numeral.readInt? 10 text

/-- An integer as the value of an option, which may lack it. -/
def integerValue (value : Option Text) : Except Halt (Option Int) :=
  match value with
  | none => .ok none
  | some text =>
    match readInteger? text with
    | some n => .ok (some n)
    | none => .error .misuse

/-- The form of a report by name. -/
def formOfName? (name : Text) : Option ReportForm :=
  if name = "text".toList then some .text
  else if name = "json".toList then some .json
  else none

/-- The form that an option chooses: the usual one if it names none. -/
def formValue (value : Option Text) : Except Halt ReportForm :=
  match value with
  | none => .ok .text
  | some name =>
    match formOfName? name with
    | some form => .ok form
    | none => .error .misuse

/-- The diagnostic options with one more. -/
def diagnosticStep (o : DiagnosticOptions) (spec : OptionSpec) (value : Option Text) :
    Except Halt DiagnosticOptions :=
  if spec = formatOption then (formValue value).map ({ o with form := · })
  else if spec = keepColoursOption then .ok { o with keepColours := true }
  else .ok { o with keepUnlocated := true }

/-- The command `diagnostics` with its words. -/
def readDiagnostics (words : List Text) : Except Halt Command := do
  let (input, options) ← foldReading (diagnosticsGrammar.read words)
    (['-'], ({} : DiagnosticOptions))
    (fun s spec value => (diagnosticStep s.2 spec value).map (s.1, ·))
    (fun s value => (value, s.2))
  return .diagnostics input options

/-- The command `check` with its words. -/
def readCheck (words : List Text) : Except Halt Command := do
  let (path, executable, options) ← foldReading (checkGrammar.read words)
    ([], (.omitted : Given Text), ({} : DiagnosticOptions))
    (fun s spec value =>
      if spec = executableOption then .ok (s.1, .ofWritten value, s.2.2)
      else (diagnosticStep s.2.2 spec value).map (s.1, s.2.1, ·))
    (fun s value => (value, s.2))
  return .check path executable options

/-- The mode that an option asks for; a text cannot be both laid out in place
and only checked. -/
def changeMode (old new : IndentMode) : Except Halt IndentMode :=
  if old = .print ∨ old = new then .ok new else .error .misuse

/-- The command `indent` with its words. -/
def readIndent (words : List Text) : Except Halt Command := do
  let (path, mode, unit) ← foldReading (indentGrammar.read words)
    ([], IndentMode.print, (.omitted : Given Int))
    (fun s spec value =>
      if spec = inPlaceOption then (changeMode s.2.1 .inPlace).map (s.1, ·, s.2.2)
      else if spec = checkOption then (changeMode s.2.1 .check).map (s.1, ·, s.2.2)
      else (integerValue value).map (s.1, s.2.1, .ofWritten ·))
    (fun s value => (value, s.2))
  return .indent path mode unit

/-- The command `highlight` with its words. -/
def readHighlight (words : List Text) : Except Halt Command := do
  let (path, formatter) ← foldReading (highlightGrammar.read words)
    ([], some "terminal".toList)
    (fun s _ value => .ok (s.1, value))
    (fun s value => (value, s.2))
  return .highlight path formatter

/-- A command by name with its words. -/
def readCommand (name : Text) (words : List Text) : Except Halt Command :=
  if name = "diagnostics".toList then readDiagnostics words
  else if name = "indent".toList then readIndent words
  else if name = "highlight".toList then readHighlight words
  else if name = "check".toList then readCheck words
  else .error .misuse

/-- The request made by occurrences, behind options that have been read already. -/
def readOccurrences (verbosity : Nat) (config : Given Text) :
    List Occurrence → Except Halt Request
  | [] => .error .misuse
  | .option spec value :: rest =>
    if spec = helpOption then .error .help
    else if spec = verboseOption then readOccurrences (verbosity + 1) config rest
    else readOccurrences verbosity (.ofWritten value) rest
  | .operand _ :: _ => .error .misuse
  | .command name words :: _ => (readCommand name words).map (⟨verbosity, config, ·⟩)

/-- What a command line asks for. -/
def Asked.ofWords (words : List Text) : Asked :=
  let reading := grammar.read words
  match readOccurrences 0 .omitted reading.occurrences with
  | .ok r => if reading.complete then .request r else .misuse
  | .error halt => halt.asked

end CommandLine
end AmberTools
