import AmberTools.Proofs.Indent.Roles
import AmberTools.Proofs.Text.Lines
import AmberTools.Reindent

/-!
# The layout of a text

All that the lines above tell about a line's column is one number, the base they give. Reindenting
is therefore a walk over the pieces of a text with this number as its state. The walk neither
looks at the margins of the lines nor changes anything else in them, which makes reindenting
idempotent: the second walk meets the same lines, except that emptied lines may have fused with
the line break in front of them or have disappeared at the end, and blank lines leave the base
alone.

## Main definitions

* `Reindent.baseAfter`: the base behind a line.
* `Reindent.layOut`: the pieces of a text with each line at its place.
* `Reindent.unindented`: a text without its indentation.

## Main results

* `Reindent.reindent_eq_layOut`: reindenting lays out the pieces of a text.
* `Reindent.layOut_layOut`: the layout does not depend on the margins.
* `Reindent.joined_layOut_settle`: the layout does not depend on empty lines.
* `Reindent.run_formatted`: reindenting is idempotent.
* `Reindent.formatted_eq_iff`: reindenting forgets the indentation and nothing else.
-/

namespace AmberTools
namespace Reindent

open Indent

/-- The column of a line that is not blank, below lines that give a base. -/
def columnAt (unit base : Nat) (line : Text) : Nat :=
  if startsClosing line then base - unit else base

/-- The base that a line gives to the next one, if the lines above it give a base. -/
def baseAfter (unit base : Nat) (line : Text) : Nat :=
  match Role.ofLine line with
  | .opener => columnAt unit base line + unit
  | .closer => columnAt unit base line
  | .plain => columnAt unit base line
  | .blank => base

/-- A line at its place. Of a blank line nothing is left. -/
def placedText (unit base : Nat) (line : Text) : Text :=
  if Text.allBlank line then [] else Margin.indented (columnAt unit base line) line

/-- Pieces with each line at its place, below lines that give a base. -/
def layOut (unit : Nat) : Nat → List (Text × Text) → List (Text × Text)
  | _, [] => []
  | base, (line, terminator) :: pieces =>
    (placedText unit base line, terminator) :: layOut unit (baseAfter unit base line) pieces

variable {unit base : Nat} {line : Text}

/-! ### Single lines -/

theorem columnAt_congr {a b : Text} (h : Text.trimLeft a = Text.trimLeft b) :
    columnAt unit base a = columnAt unit base b := by
  rw [columnAt, columnAt, startsClosing_congr h]

theorem baseAfter_congr {a b : Text} (h : Text.trimLeft a = Text.trimLeft b) :
    baseAfter unit base a = baseAfter unit base b := by
  rw [baseAfter, baseAfter, Role.ofLine_congr h, columnAt_congr h]

theorem baseAfter_of_blank (h : Text.allBlank line = true) :
    baseAfter unit base line = base := by
  rw [baseAfter, Role.ofLine_eq_blank_iff.mpr h]

/-- A line at its place differs from the line in blank characters at the start only. -/
theorem trimLeft_placedText : Text.trimLeft (placedText unit base line) = Text.trimLeft line := by
  unfold placedText
  split_ifs with h
  · exact (Text.allBlank_iff_trimLeft.mp h).symm
  · exact Margin.trimLeft_indented _ _

/-- A line that has been placed is placed like the line itself, whatever unit it was placed by. -/
theorem placedText_placedText {unit' : Nat} (base' : Nat) :
    placedText unit base (placedText unit' base' line) = placedText unit base line := by
  have htrim : Text.trimLeft (placedText unit' base' line) = Text.trimLeft line :=
    trimLeft_placedText
  rw [placedText, Text.allBlank_congr htrim, columnAt_congr htrim]
  by_cases h : Text.allBlank line = true
  · rw [if_pos h, placedText, if_pos h]
  · rw [if_neg h, placedText, placedText, if_neg h, if_neg h, Margin.indented,
      Margin.body_indented, Margin.indented]

/-- A new margin has no line break. -/
theorem unbroken_indented (column : Nat) (h : Text.Unbroken line) :
    Text.Unbroken (Margin.indented column line) := by
  have hspaces : Text.Unbroken (Margin.spaces column) := by
    simp [Text.Unbroken, Margin.spaces, List.mem_replicate]
  exact Text.unbroken_append_iff.mpr ⟨hspaces, h.sublist (List.dropWhile_sublist _)⟩

theorem unbroken_placedText (h : Text.Unbroken line) :
    Text.Unbroken (placedText unit base line) := by
  unfold placedText
  split_ifs
  · exact Text.unbroken_nil
  · exact unbroken_indented _ h

/-! ### Reindenting as a layout -/

/-- The lines above count only through the base they give. -/
theorem text_place (above : List PlacedLine) :
    (place unit above line).text = placedText unit (baseColumn unit above) line := by
  have htrim := Margin.trimLeft_body line
  rw [place, placedText, Text.allBlank_congr htrim]
  split_ifs
  · rfl
  · rw [columnBelow, ← columnAt, columnAt_congr htrim, Margin.indented]

/-- A placed line gives the base that the line itself gives. -/
theorem baseColumn_place (above : List PlacedLine) :
    baseColumn unit (place unit above line :: above) =
      baseAfter unit (baseColumn unit above) line := by
  have htrim : Text.trimLeft (place unit above line).text = Text.trimLeft line := by
    rw [text_place, trimLeft_placedText]
  rw [baseColumn, baseAfter, Role.ofLine_congr htrim]
  by_cases hblank : Text.allBlank line = true
  · rw [Role.ofLine_eq_blank_iff.mpr hblank]
  · have hbody : Text.allBlank (Margin.body line) = false := by
      rw [Text.allBlank_congr (Margin.trimLeft_body line)]
      simpa using hblank
    have hcolumn : (place unit above line).column =
        columnAt unit (baseColumn unit above) line := by
      simp only [place, hbody, Bool.false_eq_true, if_false, columnBelow]
      exact columnAt_congr (Margin.trimLeft_body line)
    cases hrole : Role.ofLine line with
    | opener => exact congrArg (· + unit) hcolumn
    | closer => exact hcolumn
    | plain => exact hcolumn
    | blank => exact absurd (Role.ofLine_eq_blank_iff.mp hrole) hblank

theorem map_placeAll (unit : Nat) (above : List PlacedLine) (lines : List SourceLine) :
    (placeAll unit above lines).map (fun placed => (placed.1.text, placed.2)) =
      layOut unit (baseColumn unit above) (lines.map fun l => (l.text, l.terminator)) := by
  induction lines generalizing above with
  | nil => rfl
  | cons l lines ih =>
    rw [placeAll, List.map_cons, List.map_cons, layOut, ih, text_place, baseColumn_place]

/-- Reindenting lays out the pieces of a text from the left edge. -/
theorem reindent_eq_layOut (unit : Nat) (text : Text) :
    reindent unit text = Text.joined (layOut unit 0 (Text.linePieces text)) := by
  have hpieces := map_placeAll unit [] (Text.splitLines text)
  rw [Text.map_splitLines] at hpieces
  rw [reindent, Text.joined, ← show baseColumn unit [] = 0 from rfl, ← hpieces, List.flatMap_map]

/-! ### What a layout depends on -/

theorem terminated_layOut {pieces : List (Text × Text)} (h : Text.Terminated pieces) :
    Text.Terminated (layOut unit base pieces) := by
  induction h generalizing base with
  | nil => exact .nil
  | last hline => exact .last (unbroken_placedText hline)
  | cons hline hterminator _ ih => exact .cons (unbroken_placedText hline) hterminator ih

/-- A layout keeps the terminators. -/
theorem map_snd_layOut (pieces : List (Text × Text)) :
    (layOut unit base pieces).map Prod.snd = pieces.map Prod.snd := by
  induction pieces generalizing base with
  | nil => rfl
  | cons piece pieces ih => rw [layOut, List.map_cons, List.map_cons, ih]

/-- Lines are laid out alike whatever layout they had before. -/
theorem layOut_layOut {unit' : Nat} (base base' : Nat) (pieces : List (Text × Text)) :
    layOut unit base (layOut unit' base' pieces) = layOut unit base pieces := by
  induction pieces generalizing base base' with
  | nil => rfl
  | cons piece pieces ih =>
    rw [layOut, layOut, layOut, placedText_placedText, baseAfter_congr trimLeft_placedText, ih]

/-- A piece that is attached to others is laid out in front of them, also where it takes up an
empty line or disappears. -/
theorem joined_layOut_attach (piece : Text × Text) (pieces : List (Text × Text)) :
    Text.joined (layOut unit base (Text.attach piece pieces)) =
      Text.joined (layOut unit base (piece :: pieces)) := by
  have hempty (base : Nat) : placedText unit base [] = [] := rfl
  have hbase (base : Nat) : baseAfter unit base [] = base := baseAfter_of_blank rfl
  obtain ⟨line, terminator⟩ := piece
  unfold Text.attach
  split_ifs with hglue hnone
  · obtain ⟨hreturn, hhead⟩ := hglue
    obtain ⟨rest, rfl⟩ : ∃ rest, pieces = ([], ['\n']) :: rest := by
      cases pieces with
      | nil => simp at hhead
      | cons next rest => exact ⟨rest, by simpa using hhead⟩
    simp only at hreturn
    simp [layOut, Text.joined, hreturn, hempty, hbase]
  · obtain ⟨rfl, rfl⟩ := Prod.mk.inj hnone
    simp [layOut, Text.joined, hempty, hbase]
  · rfl

/-- A text is laid out alike when its pieces are read back first. -/
theorem joined_layOut_settle (base : Nat) (pieces : List (Text × Text)) :
    Text.joined (layOut unit base (Text.settle pieces)) =
      Text.joined (layOut unit base pieces) := by
  induction pieces generalizing base with
  | nil => rfl
  | cons piece pieces ih =>
    have hcons : Text.settle (piece :: pieces) = Text.attach piece (Text.settle pieces) := rfl
    have hrest := ih (baseAfter unit base piece.1)
    rw [Text.joined, Text.joined] at hrest
    rw [hcons, joined_layOut_attach, layOut, layOut, Text.joined, Text.joined, List.flatMap_cons,
      List.flatMap_cons, hrest]

/-- Reindenting forgets any reindenting before it, also one by another unit. -/
theorem reindent_reindent (unit : Nat) {unit' : Nat} (text : Text) :
    reindent unit (reindent unit' text) = reindent unit text := by
  have hterminated : Text.Terminated (layOut unit' 0 (Text.linePieces text)) :=
    terminated_layOut (Text.terminated_linePieces text)
  calc reindent unit (reindent unit' text)
      = Text.joined (layOut unit 0 (Text.linePieces
          (Text.joined (layOut unit' 0 (Text.linePieces text))))) := by
        rw [reindent_eq_layOut, reindent_eq_layOut unit' text]
    _ = Text.joined (layOut unit 0 (Text.settle (layOut unit' 0 (Text.linePieces text)))) := by
        rw [Text.linePieces_joined hterminated]
    _ = Text.joined (layOut unit 0 (layOut unit' 0 (Text.linePieces text))) :=
        joined_layOut_settle 0 _
    _ = reindent unit text := by
        rw [layOut_layOut, ← reindent_eq_layOut]

/-- A run on formatted text gives it back and reports no change. -/
theorem run_formatted (settings : Settings) (text : Text) :
    (run settings (run settings text).formatted).formatted = (run settings text).formatted ∧
      (run settings (run settings text).formatted).changed = false := by
  have hagain : reindent settings.indentUnit (reindent settings.indentUnit text) =
      reindent settings.indentUnit text := reindent_reindent _ _
  refine ⟨hagain, ?_⟩
  simp only [Outcome.changed, run, hagain, bne_self_eq_false]

/-! ### Texts without indentation -/

/-- The text with no line indented: a blank line is empty, and any other line starts with its
body. -/
def unindented (text : Text) : Text :=
  (Text.splitLines text).flatMap fun line =>
    (if line.isBlank then [] else Margin.body line.text) ++ line.terminator

theorem columnAt_zero : columnAt 0 0 line = 0 := ite_self 0

theorem baseAfter_zero : baseAfter 0 0 line = 0 := by
  unfold baseAfter
  split <;> simp only [columnAt_zero]

theorem joined_layOut_zero (pieces : List (Text × Text)) :
    Text.joined (layOut 0 0 pieces) =
      pieces.flatMap fun piece =>
        (if Text.allBlank piece.1 then [] else Margin.body piece.1) ++ piece.2 := by
  have hplaced (line : Text) :
      placedText 0 0 line = if Text.allBlank line then [] else Margin.body line := by
    rw [placedText, columnAt_zero]
    rfl
  induction pieces with
  | nil => rfl
  | cons piece pieces ih =>
    rw [layOut, baseAfter_zero, List.flatMap_cons, ← ih, hplaced]
    rfl

/-- With levels of no width, reindenting takes all indentation away. -/
theorem unindented_eq_reindent (text : Text) : unindented text = reindent 0 text := by
  rw [reindent_eq_layOut, joined_layOut_zero, ← Text.map_splitLines, List.flatMap_map]
  rfl

/-- Two texts are formatted alike if and only if they are the same without indentation. -/
theorem formatted_eq_iff (settings : Settings) (s t : Text) :
    (run settings s).formatted = (run settings t).formatted ↔ unindented s = unindented t := by
  -- reindenting by either unit can be undone by the other
  rw [unindented_eq_reindent, unindented_eq_reindent]
  constructor
  · intro h
    have hzero := congrArg (reindent 0) h
    simpa only [run, reindent_reindent] using hzero
  · intro h
    have hunit := congrArg (reindent settings.indentUnit) h
    simpa only [run, reindent_reindent] using hunit

end Reindent
end AmberTools
