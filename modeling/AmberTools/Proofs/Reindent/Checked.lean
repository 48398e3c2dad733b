import AmberTools.Proofs.Text.Lines
import AmberTools.Reindent

/-!
# Reindenting with all checks

Lines have positive numbers, columns are not negative, the unit of indentation is positive, and a
tab can be expanded only if tabs have a width. Here lines are placed with each of these checks where
a value is made, from a unit that may be any integer. With a positive unit no check fails: columns
grow by units, go back to the left edge at most, and a tab stands less than a unit in front of the
next stop.

## Main definitions

* `Reindent.Breach`: the checks that could break reindenting off.
* `Reindent.runChecked`, `Reindent.lineColumnChecked`: a whole text and a single line, with all
  checks.

## Main results

* `Margin.signedWidth?_natCast`: the width of a margin for a positive tab width.
* `Reindent.runChecked_eq`, `Reindent.lineColumnChecked_eq`: no check fails under any settings.
-/

namespace AmberTools

namespace Margin

/-- For a positive tab width, there is always a next tab stop. -/
theorem signedWidthFrom?_natCast {tabWidth : Nat} (h : 0 < tabWidth) (column : Nat) (line : Text) :
    signedWidthFrom? tabWidth column line = some (widthFrom tabWidth column line : Int) := by
  fun_induction widthFrom tabWidth column line with
  | case1 column rest ih => exact ih
  | case2 column rest ih =>
    have hne : (tabWidth : Int) ≠ 0 := by omega
    have hstop : (column : Int) + (tabWidth - Int.fmod column tabWidth) =
        (column + (tabWidth - column % tabWidth) : Nat) := by
      have hlt : column % tabWidth < tabWidth := Nat.mod_lt _ h
      rw [Int.fmod_eq_emod_of_nonneg _ (by omega), ← Int.natCast_emod]
      omega
    rw [signedWidthFrom?, if_neg hne, hstop]
    exact ih
  | case3 column line hspace htab =>
    rw [signedWidthFrom?.eq_def]
    split
    · exact absurd rfl (hspace _)
    · exact absurd rfl (htab _)
    · rfl

theorem signedWidth?_natCast {tabWidth : Nat} (h : 0 < tabWidth) (line : Text) :
    signedWidth? tabWidth line = some (width tabWidth line : Int) :=
  signedWidthFrom?_natCast h 0 line

end Margin

namespace Reindent

open Indent

/-- A check that could break reindenting off. -/
inductive Breach where
  | line (fault : SourceLine.Fault)
  | index (fault : Fault)
  | indent (fault : Indent.Fault)
  /-- A tab stands in a margin, but tabs have no width. -/
  | noTabStop
  deriving DecidableEq, Repr

/-- A line at its place below others, which are listed from the first to the nearest. -/
def placeChecked (unit : Int) (preceding : List PlacedLine) (line : Text) :
    Except Indent.Fault PlacedLine :=
  let body := Margin.body line
  if Text.allBlank body then PlacedLine.ofColumn [] 0
  else do
    let column ← Indent.column unit preceding body
    PlacedLine.ofColumn (Margin.spaces column ++ body) column

/-- The lines placed one below the other, each with its terminator. -/
def placeAllChecked (unit : Int) (preceding : List PlacedLine) :
    List SourceLine → Except Indent.Fault (List (PlacedLine × Text))
  | [] => .ok []
  | line :: lines => do
    let placed ← placeChecked unit preceding line.text
    let others ← placeAllChecked unit (preceding ++ [placed]) lines
    return (placed, line.terminator) :: others

/-- The text reindented by a unit. -/
def runChecked (unit : Int) (text : Text) : Except Breach Outcome := do
  let lines ← (Text.numberLines 1 (Text.linePieces text)).mapError .line
  let placed ← (placeAllChecked unit [] lines).mapError .indent
  return ⟨text, placed.flatMap fun line => line.1.text ++ line.2⟩

/-- A line at the column that it has already. -/
def standChecked (tabWidth : Int) (line : SourceLine) : Except Breach PlacedLine :=
  match Margin.signedWidth? tabWidth line.text with
  | none => .error .noTabStop
  | some width => (PlacedLine.ofColumn line.text width).mapError .indent

/-- The column of the line at an index of a text, below the lines above it as they stand. -/
def lineColumnChecked (unit : Int) (text : Text) (index : Int) : Except Breach Nat := do
  let lines ← (Text.numberLines 1 (Text.linePieces text)).mapError .line
  if index < 0 then .error (.index (.negativeIndex index))
  let preceding ← (lines.take index.toNat).mapM (standChecked unit)
  let current := (lines[index.toNat]?).elim [] (·.text)
  (Indent.column unit preceding current).mapError .indent

/-! ### Single lines -/

theorem ofColumn_natCast (text : Text) (column : Nat) :
    PlacedLine.ofColumn text column = .ok ⟨text, column⟩ := by
  rw [PlacedLine.ofColumn, if_neg (by omega), Int.toNat_natCast]

variable {unit : Nat} (hunit : 0 < unit)
include hunit

theorem column_natCast (preceding : List PlacedLine) (line : Text) :
    Indent.column unit preceding line = .ok (columnBelow unit preceding.reverse line) := by
  rw [Indent.column, if_neg (by omega), Int.toNat_natCast]

theorem placeChecked_eq (above : List PlacedLine) (line : Text) :
    placeChecked unit above.reverse line = .ok (place unit above line) := by
  unfold placeChecked place
  dsimp only
  split
  · exact ofColumn_natCast [] 0
  · rw [column_natCast hunit, List.reverse_reverse]
    exact ofColumn_natCast _ _

theorem standChecked_eq (line : SourceLine) :
    standChecked unit line = .ok (asItStands unit line) := by
  rw [standChecked, Margin.signedWidth?_natCast hunit]
  dsimp only
  rw [ofColumn_natCast]
  rfl

/-! ### Whole texts -/

theorem placeAllChecked_eq (above : List PlacedLine) (lines : List SourceLine) :
    placeAllChecked unit above.reverse lines = .ok (placeAll unit above lines) := by
  induction lines generalizing above with
  | nil => rfl
  | cons line lines ih =>
    have hothers := ih (place unit above line.text :: above)
    rw [List.reverse_cons] at hothers
    rw [placeAllChecked, placeChecked_eq hunit]
    dsimp only [bind, Except.bind]
    rw [hothers]
    rfl

omit hunit

/-- Under any settings, a whole text is reindented without a fault. -/
theorem runChecked_eq (s : Settings) (text : Text) :
    runChecked s.indentUnit text = .ok (run s text) := by
  have hplaced := placeAllChecked_eq s.indentUnit_pos [] (Text.splitLines text)
  rw [List.reverse_nil] at hplaced
  rw [runChecked, Text.numberLines_linePieces]
  dsimp only [bind, Except.bind, Except.mapError]
  rw [hplaced]
  rfl

/-- Under any settings, every line of a text has a column, and so has every line behind the last. -/
theorem lineColumnChecked_eq (s : Settings) (text : Text) {index : Int} (h : 0 ≤ index) :
    lineColumnChecked s.indentUnit text index = .ok (lineColumn s text index.toNat) := by
  have habove (lines : List SourceLine) : lines.mapM (standChecked s.indentUnit) =
      .ok (lines.map (asItStands s.indentUnit)) := by
    induction lines with
    | nil => rfl
    | cons line lines ih =>
      rw [List.mapM_cons, standChecked_eq s.indentUnit_pos, ih]
      rfl
  rw [lineColumnChecked, Text.numberLines_linePieces]
  dsimp only [bind, Except.bind, Except.mapError]
  rw [if_neg (by omega), habove]
  dsimp only
  rw [column_natCast s.indentUnit_pos]
  rfl

end Reindent
end AmberTools
