import AmberTools.Compiler.Line
import AmberTools.Diagnostic.Basic
import AmberTools.Text.Line
import AmberTools.Text.Quoted
import AmberTools.Text.Sgr

/-!
# Scanning compiler output

A scanner takes the lines of compiler output one at a time. A header opens a diagnostic and a
location closes it; lines in between belong to its message. A diagnostic that is superseded by
a further header, or still open at the end, has no place: the unlocated policy says whether it
is dropped or kept, and an event records it either way.
-/

namespace AmberTools
namespace Compiler

/-- What becomes of a diagnostic that never receives a location. -/
inductive UnlocatedPolicy where
  | drop
  | keep
  deriving DecidableEq, Repr

namespace UnlocatedPolicy

/-- The word for a policy. -/
def name : UnlocatedPolicy → Text
  | .drop => "drop".toList
  | .keep => "keep".toList

/-- The policy of a given name. -/
def ofName? (name : Text) : Option UnlocatedPolicy :=
  [drop, keep].find? fun policy => policy.name == name

/-- Why a name gives no policy. -/
inductive Fault where
  | unknown (name : Text)
  deriving DecidableEq, Repr

/-- The wording of a fault. -/
def Fault.message : Fault → String
  | .unknown name => s!"{String.ofList (Quoted.encode name)} is not a valid UnlocatedPolicy"

/-- The policy of a given name, which must be one. -/
def ofName (name : Text) : Except Fault UnlocatedPolicy :=
  match ofName? name with
  | some policy => .ok policy
  | none => .error (.unknown name)

end UnlocatedPolicy

/-- How output is read. -/
structure Reading where
  /-- Whether colours are removed from each line first. -/
  stripColours : Bool := true
  unlocated : UnlocatedPolicy := .drop
  deriving DecidableEq, Repr

/-- A diagnostic whose header has been read and whose location has not. -/
structure Pending where
  /-- The number of the header's line, counted from one. -/
  headerLine : Nat
  /-- The message so far, line by line. -/
  messageLines : List Text
  deriving DecidableEq, Repr

/-- The message so far. -/
def Pending.message (p : Pending) : Text := Text.joinWith ['\n'] p.messageLines

/-- Why a pending diagnostic got no location. -/
inductive Abandonment where
  | superseded
  | endOfOutput
  deriving DecidableEq, Repr

/-- The record that a header's diagnostic got no location. -/
structure Event where
  headerLine : Nat
  reason : Abandonment
  policy : UnlocatedPolicy
  deriving DecidableEq, Repr

/-- The wording of a reason. -/
def Abandonment.message : Abandonment → String
  | .superseded => "superseded by a new header"
  | .endOfOutput => "no location before end of output"

/-- The wording of an event. -/
def Event.message (e : Event) : String :=
  match e.policy with
  | .keep => s!"Keeping unlocated diagnostic from line {e.headerLine} ({e.reason.message})"
  | .drop => s!"Dropping diagnostic header on line {e.headerLine} ({e.reason.message})"

/-- What one step of a scanner puts out. -/
structure Emission where
  diagnostics : List Diagnostic := []
  events : List Event := []
  deriving DecidableEq

/-- The emission of two steps in order. -/
def Emission.append (a b : Emission) : Emission :=
  ⟨a.diagnostics ++ b.diagnostics, a.events ++ b.events⟩

/-- A scanner between two lines. -/
structure Scanner where
  reading : Reading
  /-- The number of lines read. -/
  lineNumber : Nat := 0
  pending : Option Pending := none
  finished : Bool := false
  deriving DecidableEq, Repr

/-- The text of a line without the line break characters at its end and, if asked for, without
colours. -/
def Reading.lineText (reading : Reading) (line : Text) : Text :=
  let text := Text.dropRightWhile (fun c => c == '\r' || c == '\n') line
  if reading.stripColours then Sgr.strip text else text

namespace Scanner

/-- Why a step is refused. -/
inductive Fault where
  | alreadyFinished
  deriving DecidableEq, Repr

/-- The wording of a fault. -/
def Fault.message : Fault → String
  | .alreadyFinished => "OutputScanner already finished"

/-- What giving up a pending diagnostic puts out. -/
def abandon (policy : UnlocatedPolicy) (pending : Pending) (reason : Abandonment) : Emission where
  diagnostics :=
    match policy with
    | .keep => [Diagnostic.unlocated pending.message]
    | .drop => []
  events := [⟨pending.headerLine, reason, policy⟩]

/-- A pending diagnostic, if any, is given up. -/
def abandonAny (policy : UnlocatedPolicy) (pending : Option Pending) (reason : Abandonment) :
    Emission :=
  match pending with
  | none => {}
  | some p => abandon policy p reason

/-- The step for a line of known text, whatever the scanner has read before. -/
def advance (s : Scanner) (text : Text) : Emission × Scanner :=
  let next := { s with lineNumber := s.lineNumber + 1 }
  match Line.classify text, s.pending with
  | .header message, pending =>
    (abandonAny s.reading.unlocated pending .superseded,
      { next with pending := some ⟨s.lineNumber + 1, [message]⟩ })
  | .location file line column pos, some p =>
    ({ diagnostics := [⟨p.message, some file, line, column, Diagnostic.errorSeverity,
        fun _ => pos⟩] },
      { next with pending := none })
  | _, some p =>
    ({}, { next with pending := some { p with messageLines := p.messageLines ++ [text] } })
  | _, none => ({}, next)

/-- The scanner takes one more line. -/
def feed (s : Scanner) (line : Text) : Except Fault (Emission × Scanner) :=
  if s.finished then .error .alreadyFinished
  else .ok (s.advance (s.reading.lineText line))

/-- The output ends. A second end changes nothing. -/
def finish (s : Scanner) : Emission × Scanner :=
  if s.finished then ({}, s)
  else (abandonAny s.reading.unlocated s.pending .endOfOutput,
    { s with pending := none, finished := true })

/-- What a scanner puts out for some lines and the end of the output, each step's emission with
the number of lines read until then. -/
def run (s : Scanner) : List Text → List (Nat × Emission)
  | [] => [(s.lineNumber, s.finish.1)]
  | line :: lines =>
    let step := s.advance (s.reading.lineText line)
    (step.2.lineNumber, step.1) :: run step.2 lines

end Scanner

/-- The emissions for the lines of an output in order. -/
def emissions (reading : Reading) (lines : List Text) : List (Nat × Emission) :=
  Scanner.run { reading } lines

/-- Each diagnostic with the number of lines that had been read when it was found. -/
def timedDiagnostics (reading : Reading) (lines : List Text) : List (Nat × Diagnostic) :=
  (emissions reading lines).flatMap fun step => step.2.diagnostics.map (step.1, ·)

/-- The diagnostics of some lines in the order in which they are completed. -/
def parseLines (reading : Reading) (lines : List Text) : List Diagnostic :=
  (emissions reading lines).flatMap (·.2.diagnostics)

/-- The records of abandoned diagnostics of some lines. -/
def eventsOfLines (reading : Reading) (lines : List Text) : List Event :=
  (emissions reading lines).flatMap (·.2.events)

/-- The lines of an output that a scanner is given. -/
def outputLines (output : Text) : List Text := (Text.splitLines output).map (·.text)

/-- The diagnostics of the output of one compiler run. -/
def parseOutput (reading : Reading) (output : Text) : List Diagnostic :=
  parseLines reading (outputLines output)

end Compiler
end AmberTools
