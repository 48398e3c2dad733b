import AmberTools.Indent.Line

/-!
# Indentation columns

The column of a line follows from the nearest line above it that is not blank: one unit more
than that line's column if it starts a block, the same column otherwise, and one unit less if
the line itself starts with a closing bracket. Only the first word of the line above counts, so
a block that opens and closes on one line still pushes the next line in.
-/

namespace AmberTools
namespace Indent

/-- A line with the column it is indented to. -/
structure PlacedLine where
  text : Text
  column : Nat
  deriving DecidableEq, Repr

/-- The column that the lines above give to the next one. They are listed from the nearest to
the farthest. -/
def baseColumn (unit : Nat) : List PlacedLine → Nat
  | [] => 0
  | line :: above =>
    match Role.ofLine line.text with
    | .opener => line.column + unit
    | .closer => line.column
    | .plain => line.column
    | .blank => baseColumn unit above

/-- The column of a line below others, which are listed from the nearest to the farthest. -/
def columnBelow (unit : Nat) (above : List PlacedLine) (line : Text) : Nat :=
  let base := baseColumn unit above
  if startsClosing line then base - unit else base

/-- Why a column cannot be computed from numbers given from outside. -/
inductive Fault where
  | negativeColumn
  | unitNotPositive (unit : Int)
  deriving DecidableEq, Repr

/-- The wording of a fault. -/
def Fault.message : Fault → String
  | .negativeColumn => "IndentLine indent cannot be negative"
  | .unitNotPositive unit => s!"indent_unit must be positive, got {String.ofList (Text.ofInt unit)}"

/-- A line placed at a given column, which must not be negative. -/
def PlacedLine.ofColumn (text : Text) (column : Int) : Except Fault PlacedLine :=
  if column < 0 then .error .negativeColumn else .ok ⟨text, column.toNat⟩

/-- The column of a line below others, listed from the first to the nearest, for a unit that
must be positive. -/
def column (unit : Int) (preceding : List PlacedLine) (line : Text) : Except Fault Nat :=
  if unit < 1 then .error (.unitNotPositive unit)
  else .ok (columnBelow unit.toNat preceding.reverse line)

end Indent
end AmberTools
