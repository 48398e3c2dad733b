import AmberTools.Proofs.Reindent.SingleLine

/-!
# Tabs and columns

The column asked for a single line depends on the lines above it, on what each of them says behind
its margin and on the column at which it stands. How its margin is made up does not matter. So every
margin may be written in spaces, as many as it is wide: a margin of spaces is as wide as before,
whatever tab width it is measured by, no line becomes empty that was not, and the text is cut into
the same lines.

## Main definitions

* `Margin.expanded`: a line with a margin of spaces that is as wide as its own.
* `Text.expandMargins`: a text with all its margins expanded.

## Main results

* `Text.splitLines_expandMargins`: expanding the margins of a text keeps its lines apart.
* `Reindent.lineColumn_congr`: what the column of a line depends on.
* `Reindent.lineColumnAt_expandMargins`: expanding the margins of a text moves no line.
-/

namespace AmberTools

namespace Margin

/-- The line with a margin of spaces that is as wide as its own. -/
def expanded (tabWidth : Nat) (line : Text) : Text := indented (width tabWidth line) line

variable {tabWidth : Nat}

theorem le_widthFrom (tabWidth column : Nat) (line : Text) :
    column ≤ widthFrom tabWidth column line := by
  induction line generalizing column with
  | nil => exact Nat.le_refl column
  | cons c rest ih =>
    cases hc : isMargin c with
    | false => exact Nat.le_of_eq (widthFrom_of_not_margin hc tabWidth column rest).symm
    | true =>
      obtain rfl | rfl := eq_or_eq_of_isMargin hc
      · exact Nat.le_of_succ_le (ih (column + 1))
      · exact Nat.le_trans (Nat.le_add_right ..) (ih _)

/-- A margin is at least one column wide if it has a character. -/
theorem width_pos (h : 0 < tabWidth) {c : Char} (hc : isMargin c = true) (rest : Text) :
    0 < width tabWidth (c :: rest) := by
  obtain rfl | rfl := eq_or_eq_of_isMargin hc
  · exact le_widthFrom tabWidth (0 + 1) rest
  · have hstop : 0 + (tabWidth - 0 % tabWidth) ≤ width tabWidth ('\t' :: rest) :=
      le_widthFrom tabWidth _ rest
    rw [Nat.zero_mod, Nat.zero_add, Nat.sub_zero] at hstop
    exact Nat.lt_of_lt_of_le h hstop

/-- Nothing is measured where no margin stands. -/
theorem widthFrom_body (column : Nat) (line : Text) :
    widthFrom tabWidth column (body line) = column := by
  cases hbody : body line with
  | nil => rfl
  | cons c rest =>
    have hhead := List.head?_dropWhile_not isMargin line
    rw [← body, hbody] at hhead
    exact widthFrom_of_not_margin (by simpa using hhead) tabWidth column rest

theorem width_expanded (tabWidth : Nat) (line : Text) :
    width tabWidth (expanded tabWidth line) = width tabWidth line := by
  rw [expanded, indented, width, widthFrom_spaces_append, widthFrom_body, Nat.zero_add]

theorem trimLeft_expanded (tabWidth : Nat) (line : Text) :
    Text.trimLeft (expanded tabWidth line) = Text.trimLeft line :=
  trimLeft_indented _ _

/-- A margin is not lost in expanding it. -/
theorem eq_nil_of_expanded (h : 0 < tabWidth) {line : Text} (hline : expanded tabWidth line = []) :
    line = [] := by
  obtain ⟨hspaces, hbody⟩ := List.append_eq_nil_iff.mp hline
  cases line with
  | nil => rfl
  | cons c rest =>
    have hc : isMargin c = true := List.dropWhile_eq_nil_iff.mp hbody c List.mem_cons_self
    have hpos := width_pos h hc rest
    rw [List.replicate_eq_nil_iff _ |>.mp hspaces] at hpos
    exact absurd hpos (Nat.lt_irrefl 0)

end Margin

namespace Text

/-- The text with every margin written in spaces. -/
def expandMargins (tabWidth : Nat) (text : Text) : Text :=
  (splitLines text).flatMap fun line => Margin.expanded tabWidth line.text ++ line.terminator

variable {tabWidth : Nat}

theorem linePieces_expandMargins (h : 0 < tabWidth) (text : Text) :
    linePieces (expandMargins tabWidth text) =
      (linePieces text).map fun piece => (Margin.expanded tabWidth piece.1, piece.2) := by
  have hjoined : expandMargins tabWidth text = joined
      ((linePieces text).map fun piece => (Margin.expanded tabWidth piece.1, piece.2)) := by
    rw [← map_splitLines, joined, List.flatMap_map, List.flatMap_map]
    rfl
  rw [hjoined]
  exact linePieces_joined_map (fun _ => Reindent.unbroken_indented _)
    (fun _ => Margin.eq_nil_of_expanded h) text

/-- Expanding the margins of a text keeps its lines apart. -/
theorem splitLines_expandMargins (h : 0 < tabWidth) (text : Text) :
    splitLines (expandMargins tabWidth text) =
      (splitLines text).map fun line => { line with text := Margin.expanded tabWidth line.text } := by
  refine List.ext_getElem? fun i => ?_
  rw [splitLines, linePieces_expandMargins h, splitLines, List.getElem?_mapIdx, List.getElem?_map,
    List.getElem?_map, List.getElem?_mapIdx, Option.map_map, Option.map_map]
  rfl

end Text

namespace Indent

/-- What a line at its column tells about the place of the lines below it. -/
def PlacedLine.told (line : PlacedLine) : Text × Nat := (Text.trimLeft line.text, line.column)

/-- Lines that tell the same give the same base. -/
theorem baseColumn_congr {unit : Nat} {above above' : List PlacedLine}
    (h : above.map PlacedLine.told = above'.map PlacedLine.told) :
    baseColumn unit above = baseColumn unit above' := by
  induction above generalizing above' with
  | nil =>
    obtain rfl : above' = [] := List.map_eq_nil_iff.mp h.symm
    rfl
  | cons line above ih =>
    cases above' with
    | nil => exact nomatch h
    | cons line' above' =>
      obtain ⟨htold, hrest⟩ := List.cons.inj h
      obtain ⟨htrim, hcolumn⟩ := Prod.mk.inj htold
      rw [baseColumn, baseColumn, Role.ofLine_congr htrim, hcolumn, ih hrest]

theorem columnBelow_congr {unit : Nat} {above above' : List PlacedLine} {line line' : Text}
    (h : above.map PlacedLine.told = above'.map PlacedLine.told)
    (hline : Text.trimLeft line = Text.trimLeft line') :
    columnBelow unit above line = columnBelow unit above' line' := by
  rw [columnBelow, columnBelow, baseColumn_congr h, startsClosing_congr hline]

end Indent

namespace Reindent

open Indent

/-- The column of a line depends on what each line says behind its margin, and on the width of the
margin. -/
theorem lineColumn_congr {settings : Settings} {a b : Text}
    (h : (Text.splitLines a).map (fun line => (asItStands settings.indentUnit line).told) =
      (Text.splitLines b).map fun line => (asItStands settings.indentUnit line).told)
    (index : Nat) : lineColumn settings a index = lineColumn settings b index := by
  have habove : (((Text.splitLines a).take index).map (asItStands settings.indentUnit)).reverse.map
        PlacedLine.told =
      (((Text.splitLines b).take index).map (asItStands settings.indentUnit)).reverse.map
        PlacedLine.told := by
    rw [List.map_reverse, List.map_reverse, List.map_map, List.map_map, List.map_take, List.map_take]
    exact congrArg (fun told => (told.take index).reverse) h
  have hcurrent (text : Text) : Text.trimLeft (((Text.splitLines text)[index]?).elim [] (·.text)) =
      (((Text.splitLines text).map fun line =>
        (asItStands settings.indentUnit line).told)[index]?).elim [] Prod.fst := by
    rw [List.getElem?_map]
    cases (Text.splitLines text)[index]? <;> rfl
  exact columnBelow_congr habove (by rw [hcurrent, hcurrent, h])

/-- A line with its margin expanded tells what it told before. -/
theorem told_expanded (tabWidth : Nat) (line : SourceLine) :
    (asItStands tabWidth { line with text := Margin.expanded tabWidth line.text }).told =
      (asItStands tabWidth line).told := by
  simp only [PlacedLine.told, asItStands, Margin.trimLeft_expanded, Margin.width_expanded]

/-- Writing every margin in spaces, as many as it is wide, gives a text with the same lines, but for
their margins, and the column asked for a line is the same in both texts. -/
theorem lineColumnAt_expandMargins (settings : Settings) (text : Text) :
    Text.splitLines (Text.expandMargins settings.indentUnit text) =
        (Text.splitLines text).map (fun line =>
          { line with
            text := Margin.spaces (Margin.width settings.indentUnit line.text) ++
              Margin.body line.text }) ∧
      ∀ index, lineColumnAt settings (Text.expandMargins settings.indentUnit text) index =
        lineColumnAt settings text index := by
  have hlines := Text.splitLines_expandMargins settings.indentUnit_pos text
  refine ⟨hlines, fun index => ?_⟩
  have htold : (Text.splitLines (Text.expandMargins settings.indentUnit text)).map
        (fun line => (asItStands settings.indentUnit line).told) =
      (Text.splitLines text).map fun line => (asItStands settings.indentUnit line).told := by
    rw [hlines, List.map_map]
    exact List.map_congr_left fun line _ => told_expanded settings.indentUnit line
  rw [lineColumnAt, lineColumnAt, lineColumn_congr htold]

-- a tab goes on to the next stop from wherever the spaces in front of it end
example : Text.expandMargins 4 "  \ta\n\t b\n".toList = "    a\n     b\n".toList := by
  decide +kernel

end Reindent
end AmberTools
