import AmberTools.Compiler.Scanner

/-!
# Steps of a scanner

A scanner treats a line in one of four ways, which depend on the role of the line and on whether
a diagnostic is pending. Each way has one lemma here; what a scanner does with many lines is
derived from them.

## Main definitions

* `Compiler.Line.isHeader`, `Compiler.Line.isLocation`: the roles that a scanner acts on.
* `Compiler.Scanner.found`: the diagnostics a scanner still puts out.

## Main results

* `Compiler.Scanner.advance_header`, `Compiler.Scanner.advance_location`,
  `Compiler.Scanner.advance_message`, `Compiler.Scanner.advance_idle`: the four steps.
-/

namespace AmberTools
namespace Compiler

namespace Line

/-- A line that announces a diagnostic. -/
def isHeader : Line → Bool
  | header _ => true
  | _ => false

/-- A line that gives a place. -/
def isLocation : Line → Bool
  | location .. => true
  | _ => false

theorem isHeader_iff {line : Line} : line.isHeader = true ↔ ∃ message, line = header message := by
  cases line <;> simp [isHeader]

theorem isLocation_iff {line : Line} :
    line.isLocation = true ↔
      ∃ file number column pos, line = location file number column pos := by
  cases line with
  | location file number column pos => exact ⟨fun _ => ⟨_, _, _, pos, rfl⟩, fun _ => rfl⟩
  | _ => simp [isLocation]

end Line

namespace Scanner

variable {s : Scanner} {text : Text}

/-- A header opens a diagnostic, whatever was pending. -/
theorem advance_header {message : Text} (h : Line.classify text = .header message) :
    s.advance text =
      (abandonAny s.reading.unlocated s.pending .superseded,
        { s with
          lineNumber := s.lineNumber + 1
          pending := some ⟨s.lineNumber + 1, [message]⟩ }) := by
  simp only [advance, h]

/-- A location closes the pending diagnostic. -/
theorem advance_location {file : Text} {line column : Nat} {pos : 0 < line ∧ 0 < column}
    {p : Pending} (h : Line.classify text = .location file line column pos)
    (hp : s.pending = some p) :
    s.advance text =
      ({ diagnostics := [⟨p.message, some file, line, column, Diagnostic.errorSeverity,
          fun _ => pos⟩] },
        { s with lineNumber := s.lineNumber + 1, pending := none }) := by
  simp only [advance, h, hp]

/-- Any other line belongs to the pending message. -/
theorem advance_message {p : Pending} (hheader : (Line.classify text).isHeader = false)
    (hlocation : (Line.classify text).isLocation = false) (hp : s.pending = some p) :
    s.advance text =
      ({}, { s with
        lineNumber := s.lineNumber + 1
        pending := some { p with messageLines := p.messageLines ++ [text] } }) := by
  cases h : Line.classify text with
  | header message => simp [h, Line.isHeader] at hheader
  | location file line column pos => simp [h, Line.isLocation] at hlocation
  | context => simp only [advance, h, hp]
  | blank => simp only [advance, h, hp]

/-- With nothing pending, a line that is no header is only counted. -/
theorem advance_idle (hheader : (Line.classify text).isHeader = false) (hp : s.pending = none) :
    s.advance text = ({}, { s with lineNumber := s.lineNumber + 1 }) := by
  cases h : Line.classify text with
  | header message => simp [h, Line.isHeader] at hheader
  | location file line column pos => simp only [advance, h, hp]
  | context => simp only [advance, h, hp]
  | blank => simp only [advance, h, hp]

/-- No step changes how the output is read. -/
theorem reading_advance : (s.advance text).2.reading = s.reading := by
  unfold advance
  split <;> rfl

/-- Each step counts its line. -/
theorem lineNumber_advance : (s.advance text).2.lineNumber = s.lineNumber + 1 := by
  unfold advance
  split <;> rfl

/-- No line ends the output. -/
theorem finished_advance : (s.advance text).2.finished = s.finished := by
  unfold advance
  split <;> rfl

/-- The diagnostics that a scanner puts out for some lines and the end of the output. -/
def found (s : Scanner) (lines : List Text) : List Diagnostic :=
  (s.run lines).flatMap (·.2.diagnostics)

theorem found_nil (s : Scanner) : s.found [] = s.finish.1.diagnostics := by
  simp [found, run]

theorem found_cons (s : Scanner) (line : Text) (lines : List Text) :
    s.found (line :: lines) =
      (s.advance (s.reading.lineText line)).1.diagnostics ++
        (s.advance (s.reading.lineText line)).2.found lines := by
  simp [found, run]

end Scanner
end Compiler
end AmberTools
