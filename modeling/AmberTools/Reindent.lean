import AmberTools.Indent.Column
import AmberTools.Settings.Basic
import AmberTools.Text.Margin

/-!
# Reindenting

A whole text is reindented from top to bottom: each line is placed below the lines already
placed, blank lines are emptied, and line breaks stay as they are. A single line is placed below
the lines above it as they stand.
-/

namespace AmberTools
namespace Reindent

open Indent

/-- A line at its place below others, which are listed from the nearest to the farthest. A blank
line is emptied and counts as placed at the left edge. -/
def place (unit : Nat) (above : List PlacedLine) (line : Text) : PlacedLine :=
  let body := Margin.body line
  if Text.allBlank body then ⟨[], 0⟩
  else
    let column := columnBelow unit above body
    ⟨Margin.spaces column ++ body, column⟩

/-- The lines placed one below the other, each with its terminator. -/
def placeAll (unit : Nat) (above : List PlacedLine) : List SourceLine → List (PlacedLine × Text)
  | [] => []
  | line :: lines =>
    let placed := place unit above line.text
    (placed, line.terminator) :: placeAll unit (placed :: above) lines

/-- The text with every line at its place. -/
def reindent (unit : Nat) (text : Text) : Text :=
  (placeAll unit [] (Text.splitLines text)).flatMap fun line => line.1.text ++ line.2

/-- The outcome of reindenting a text. -/
structure Outcome where
  source : Text
  formatted : Text
  deriving DecidableEq, Repr

/-- Whether reindenting altered the text. -/
def Outcome.changed (o : Outcome) : Bool := o.formatted != o.source

/-- The text reindented by the settings. -/
def run (settings : Settings) (text : Text) : Outcome :=
  ⟨text, reindent settings.indentUnit text⟩

/-- The record of a run: the number of lines and whether the text has changed. -/
def Outcome.record (o : Outcome) : String :=
  let changed := if o.changed then "True" else "False"
  s!"Reindented {(Text.splitLines o.source).length} lines (changed={changed})"

/-- A line at the column that it has already. -/
def asItStands (tabWidth : Nat) (line : SourceLine) : PlacedLine :=
  ⟨line.text, Margin.width tabWidth line.text⟩

/-- The column of the line at an index of a text, below the lines above it as they stand. An
index after the last line asks for an empty line there. -/
def lineColumn (settings : Settings) (text : Text) (index : Nat) : Nat :=
  let lines := Text.splitLines text
  let above := (lines.take index).map (asItStands settings.indentUnit)
  let current := (lines[index]?).elim [] (·.text)
  columnBelow settings.indentUnit above.reverse current

/-- Why a line cannot be asked for. -/
inductive Fault where
  | negativeIndex (index : Int)
  deriving DecidableEq, Repr

/-- The wording of a fault. -/
def Fault.message : Fault → String
  | .negativeIndex index =>
    s!"line_index cannot be negative, got {String.ofList (Text.ofInt index)}"

/-- The column of the line at an index given from outside, which must not be negative. -/
def lineColumnAt (settings : Settings) (text : Text) (index : Int) : Except Fault Nat :=
  if index < 0 then .error (.negativeIndex index)
  else .ok (lineColumn settings text index.toNat)

end Reindent
end AmberTools
