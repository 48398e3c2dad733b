import AmberTools.Proofs.Compiler.Steps
import AmberTools.Proofs.Text.Lines

/-!
# Reading output with all checks

A diagnostic has a place only together with a positive line and column, a line has a positive
number, a scanner takes no line behind its end, and a policy is given by its name. Each of these
conditions is checked where a value is made, and a value that fails its check breaks the reading
off. Here output is read with every check in its place, from plain parts. None of them ever fails:
lines are counted from one, a line is recognised as a location only if its numbers are positive,
and the one call behind all others ends the output.

## Main definitions

* `Compiler.Breach`: the checks that could break the reading off.
* `Compiler.Scanner.feedChecked`, `Compiler.Scanner.finishChecked`: steps that make diagnostics.
* `Compiler.parseChecked`: output read with all checks.

## Main results

* `Compiler.Scanner.runChecked_eq`: a scanner that is not finished breaks no check.
* `Compiler.parseChecked_eq`: output is read to its end.
-/

namespace AmberTools

namespace Diagnostic

/-- The fields of a diagnostic make it again. -/
theorem make_self (d : Diagnostic) :
    make d.message d.file d.line d.column d.severity = .ok d := by
  have hsigned : ¬ ((d.line : Int) < 0 ∨ (d.column : Int) < 0) := by omega
  rw [make, if_neg hsigned]
  exact dif_pos d.located_pos

end Diagnostic

namespace Compiler

/-- A check that could break the reading of output off. -/
inductive Breach where
  | line (fault : SourceLine.Fault)
  | policy (fault : UnlocatedPolicy.Fault)
  | refused (fault : Scanner.Fault)
  | diagnostic (fault : Diagnostic.Fault)
  deriving DecidableEq, Repr

/-- What a diagnostic is made of. -/
structure Parts where
  message : Text
  file : Option Text
  line : Int
  column : Int
  deriving DecidableEq, Repr

/-- The diagnostic of given parts, if its position can be one. -/
def Parts.make (parts : Parts) : Except Diagnostic.Fault Diagnostic :=
  Diagnostic.make parts.message parts.file parts.line parts.column Diagnostic.errorSeverity

namespace Scanner

/-- The parts of a diagnostic that is given up. -/
def givenUp (policy : UnlocatedPolicy) (pending : Option Pending) : List Parts :=
  match policy, pending with
  | .keep, some p => [⟨p.message, none, 0, 0⟩]
  | _, _ => []

/-- The parts of what a line completes. -/
def completed (s : Scanner) (text : Text) : List Parts :=
  match Line.classify text, s.pending with
  | .header _, pending => givenUp s.reading.unlocated pending
  | .location file line column _, some p => [⟨p.message, some file, line, column⟩]
  | _, _ => []

/-- The scanner takes one more line, and makes the diagnostics that this completes. -/
def feedChecked (s : Scanner) (line : Text) : Except Breach (List Diagnostic × Scanner) := do
  let (_, next) ← (s.feed line).mapError .refused
  let diagnostics ← ((s.completed (s.reading.lineText line)).mapM Parts.make).mapError .diagnostic
  return (diagnostics, next)

/-- The output ends, and what is pending is made into a diagnostic if it is kept. -/
def finishChecked (s : Scanner) : Except Breach (List Diagnostic) :=
  ((if s.finished then [] else givenUp s.reading.unlocated s.pending).mapM Parts.make).mapError
    .diagnostic

/-- The diagnostics of some lines and of the end of the output. -/
def runChecked (s : Scanner) : List Text → Except Breach (List Diagnostic)
  | [] => s.finishChecked
  | line :: lines => do
    let (diagnostics, next) ← s.feedChecked line
    let others ← runChecked next lines
    return diagnostics ++ others

end Scanner

/-- The diagnostics of an output, read with a policy that is given by its name. -/
def parseChecked (stripColours : Bool) (policy : Text) (output : Text) :
    Except Breach (List Diagnostic) := do
  let lines ← (Text.numberLines 1 (Text.linePieces output)).mapError .line
  let unlocated ← (UnlocatedPolicy.ofName policy).mapError .policy
  Scanner.runChecked { reading := { stripColours, unlocated } } (lines.map (·.text))

/-! ### Steps -/

namespace Scanner

variable {s : Scanner}

/-- What is given up can be made. -/
theorem mapM_make_givenUp (policy : UnlocatedPolicy) (pending : Option Pending)
    (reason : Abandonment) :
    (givenUp policy pending).mapM Parts.make =
      .ok (abandonAny policy pending reason).diagnostics := by
  cases pending with
  | none => cases policy <;> rfl
  | some p => cases policy <;> rfl

/-- What a line completes can be made: a location has a positive line and column. -/
theorem mapM_make_completed (s : Scanner) (text : Text) :
    (s.completed text).mapM Parts.make = .ok (s.advance text).1.diagnostics := by
  by_cases hheader : (Line.classify text).isHeader = true
  · obtain ⟨message, hline⟩ := Line.isHeader_iff.mp hheader
    rw [advance_header hline, completed, hline]
    exact mapM_make_givenUp s.reading.unlocated s.pending .superseded
  · rw [Bool.not_eq_true] at hheader
    cases hp : s.pending with
    | none =>
      rw [advance_idle hheader hp, completed, hp]
      cases hline : Line.classify text with
      | header message => simp [hline, Line.isHeader] at hheader
      | _ => rfl
    | some p =>
      by_cases hlocation : (Line.classify text).isLocation = true
      · obtain ⟨file, line, column, pos, hline⟩ := Line.isLocation_iff.mp hlocation
        have hmake := Diagnostic.make_self
          ⟨p.message, some file, line, column, Diagnostic.errorSeverity, fun _ => pos⟩
        rw [advance_location hline hp, completed, hline, hp, List.mapM_cons, Parts.make, hmake]
        rfl
      · rw [Bool.not_eq_true] at hlocation
        rw [advance_message hheader hlocation hp, completed, hp]
        cases hline : Line.classify text with
        | header message => simp [hline, Line.isHeader] at hheader
        | location file line column pos => simp [hline, Line.isLocation] at hlocation
        | _ => rfl

/-- A scanner that is not finished takes a line without a fault. -/
theorem feedChecked_eq (hs : s.finished = false) (line : Text) :
    s.feedChecked line =
      .ok ((s.advance (s.reading.lineText line)).1.diagnostics,
        (s.advance (s.reading.lineText line)).2) := by
  have hfeed : s.feed line = .ok (s.advance (s.reading.lineText line)) := by
    rw [feed, hs]
    rfl
  rw [feedChecked, hfeed, mapM_make_completed]
  rfl

theorem finishChecked_eq (s : Scanner) : s.finishChecked = .ok s.finish.1.diagnostics := by
  rw [finishChecked, finish]
  split
  · rfl
  · rw [mapM_make_givenUp _ _ .endOfOutput]
    rfl

/-- A scanner that is not finished reads all lines and the end of the output without a fault. -/
theorem runChecked_eq (hs : s.finished = false) (lines : List Text) :
    s.runChecked lines = .ok (s.found lines) := by
  induction lines generalizing s with
  | nil => rw [runChecked, finishChecked_eq, found_nil]
  | cons line lines ih =>
    have hnext : (s.advance (s.reading.lineText line)).2.finished = false := by
      rw [finished_advance, hs]
    rw [runChecked, feedChecked_eq hs, found_cons]
    dsimp only [bind, Except.bind]
    rw [ih hnext]
    rfl

end Scanner

/-! ### Whole outputs -/

/-- The name of a policy gives the policy. -/
theorem UnlocatedPolicy.ofName_name (policy : UnlocatedPolicy) :
    ofName policy.name = .ok policy := by
  cases policy <;> decide +kernel

/-- Reading an output breaks no check, and finds the diagnostics of the output. -/
theorem parseChecked_eq (reading : Reading) (output : Text) :
    parseChecked reading.stripColours reading.unlocated.name output =
      .ok (parseOutput reading output) := by
  rw [parseChecked, Text.numberLines_linePieces, UnlocatedPolicy.ofName_name]
  exact Scanner.runChecked_eq (s := { reading }) rfl (outputLines output)

end Compiler
end AmberTools
