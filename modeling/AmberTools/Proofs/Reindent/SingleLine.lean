import AmberTools.Proofs.Reindent.Layout
import AmberTools.Proofs.Text.Settled

/-!
# Single lines and whole texts

The column asked for a single line is computed from the lines above it as they stand, by measuring
their margins. A whole text is reindented without measuring anything, since each column has been
computed before it is needed. The two agree as soon as the lines above are at their places: the
margin of such a line is just as many spaces as its column says. So a whole text is at rest exactly
if every single line is, and reindenting a text is reindenting its lines one by one from the top.

## Main definitions

* `Reindent.StandsAt`: a line at a given column.
* `Reindent.baseBehind`: the base that pieces give to the next line.

## Main results

* `Reindent.layOut_eq_self_iff`: a layout leaves lines alone if each stands at the column asked
  for it.
* `Reindent.changed_eq_false_iff`: whole texts and single lines are at rest together.
* `Reindent.run_prefix_append`: a reindented text continues with the line asked for next.
-/

namespace AmberTools

namespace Margin

theorem body_spaces_append {c : Char} (hc : isMargin c = false) (column : Nat) (rest : Text) :
    body (spaces column ++ c :: rest) = c :: rest := by
  rw [body, List.dropWhile_append_of_pos fun d hd => isMargin_of_mem_spaces hd]
  simp [hc]

theorem widthFrom_of_not_margin {c : Char} (hc : isMargin c = false) (tabWidth column : Nat)
    (rest : Text) : widthFrom tabWidth column (c :: rest) = column := by
  rw [widthFrom.eq_def]
  split
  · simp_all [isMargin]
  · simp_all [isMargin]
  · rfl

/-- A space is one column wide, whatever the tab width. -/
theorem widthFrom_spaces_append (tabWidth start column : Nat) (rest : Text) :
    widthFrom tabWidth start (spaces column ++ rest) = widthFrom tabWidth (start + column) rest := by
  induction column generalizing start with
  | zero => rfl
  | succ column ih =>
    rw [spaces, List.replicate_succ, List.cons_append, widthFrom, ← spaces, ih, Nat.add_assoc,
      Nat.add_comm 1]

/-- A margin of spaces is as wide as it is long, whatever the tab width. -/
theorem width_spaces_append {c : Char} (hc : isMargin c = false) (tabWidth column : Nat)
    (rest : Text) : width tabWidth (spaces column ++ c :: rest) = column := by
  rw [width, widthFrom_spaces_append, widthFrom_of_not_margin hc, Nat.zero_add]

end Margin

namespace Reindent

open Indent

/-- A line stands at a column if its margin is that number of spaces. A blank line stands anywhere
as long as it is empty. -/
def StandsAt (column : Nat) (line : Text) : Prop :=
  if Text.allBlank line then line = []
  else ∃ c rest, Margin.isMargin c = false ∧ line = Margin.spaces column ++ c :: rest

/-- The base behind pieces, below lines that give a base. -/
def baseBehind (unit base : Nat) (pieces : List (Text × Text)) : Nat :=
  pieces.foldl (fun base piece => baseAfter unit base piece.1) base

variable {unit base : Nat} {line : Text}

/-! ### Single lines -/

/-- The body of a line that is not blank has a first character. -/
theorem exists_body_eq_cons (h : Text.allBlank line = false) :
    ∃ c rest, Margin.isMargin c = false ∧ Margin.body line = c :: rest := by
  cases hbody : Margin.body line with
  | nil =>
    have htrim : Text.trimLeft line = [] := by
      rw [← Margin.trimLeft_body, hbody]
      rfl
    simp [Text.allBlank_iff_trimLeft.mpr htrim] at h
  | cons c rest =>
    have hhead := List.head?_dropWhile_not Margin.isMargin line
    rw [← Margin.body, hbody] at hhead
    exact ⟨c, rest, by simpa using hhead, rfl⟩

theorem placedText_eq_self_iff :
    placedText unit base line = line ↔ StandsAt (columnAt unit base line) line := by
  unfold placedText StandsAt
  split_ifs with hblank
  · exact eq_comm
  · obtain ⟨c, rest, hc, hbody⟩ := exists_body_eq_cons (by simpa using hblank)
    rw [Margin.indented, hbody]
    constructor
    · intro h
      exact ⟨c, rest, hc, h.symm⟩
    · rintro ⟨d, tail, hd, hline⟩
      have hbody' : Margin.body line = d :: tail := by
        rw [hline, Margin.body_spaces_append hd]
      rw [← hbody, hbody', ← hline]

/-- A line at its place gives the base as it stands, its column being measured. -/
theorem baseColumn_asItStands {above : List PlacedLine} {line : SourceLine}
    (h : placedText unit (baseColumn unit above) line.text = line.text) :
    baseColumn unit (asItStands unit line :: above) =
      baseAfter unit (baseColumn unit above) line.text := by
  have hwidth (hvisible : Text.allBlank line.text = false) :
      Margin.width unit line.text = columnAt unit (baseColumn unit above) line.text := by
    have hstands := placedText_eq_self_iff.mp h
    rw [StandsAt, if_neg (by simp [hvisible])] at hstands
    obtain ⟨c, rest, hc, hline⟩ := hstands
    conv_lhs => rw [hline]
    exact Margin.width_spaces_append hc _ _ _
  rw [baseColumn, baseAfter, asItStands]
  cases hrole : Role.ofLine line.text with
  | blank => rfl
  | _ =>
    have hvisible : Text.allBlank line.text = false := by
      rw [← Bool.not_eq_true, ← Role.ofLine_eq_blank_iff, hrole]
      simp
    simp only [hwidth hvisible]

/-! ### Lines at rest -/

/-- A layout leaves lines alone if and only if each stands at the column that the lines above give
to it as they stand. -/
theorem layOut_eq_self_iff (unit : Nat) (above : List PlacedLine) (lines : List SourceLine) :
    layOut unit (baseColumn unit above) (lines.map fun l => (l.text, l.terminator)) =
        lines.map (fun l => (l.text, l.terminator)) ↔
      ∀ i line, lines[i]? = some line →
        StandsAt (columnBelow unit (((lines.take i).map (asItStands unit)).reverse ++ above)
          line.text) line.text := by
  induction lines generalizing above with
  | nil => simp [layOut]
  | cons first lines ih =>
    have hfirst : placedText unit (baseColumn unit above) first.text = first.text ↔
        StandsAt (columnBelow unit above first.text) first.text := placedText_eq_self_iff
    have hrest (h : placedText unit (baseColumn unit above) first.text = first.text) :=
      baseColumn_asItStands h ▸ ih (asItStands unit first :: above)
    rw [List.map_cons, layOut, List.cons.injEq, Prod.mk.injEq]
    constructor
    · rintro ⟨⟨hplaced, -⟩, hlayOut⟩ i line hline
      cases i with
      | zero =>
        obtain rfl : first = line := by simpa using hline
        exact hfirst.mp hplaced
      | succ i =>
        have hstands := (hrest hplaced).mp hlayOut i line (by simpa using hline)
        simpa using hstands
    · intro h
      have hplaced := hfirst.mpr (h 0 first rfl)
      refine ⟨⟨hplaced, rfl⟩, (hrest hplaced).mpr fun i line hline => ?_⟩
      simpa using h (i + 1) line (by simpa using hline)

theorem length_layOut (pieces : List (Text × Text)) :
    (layOut unit base pieces).length = pieces.length := by
  induction pieces generalizing base with
  | nil => rfl
  | cons piece pieces ih => rw [layOut, List.length_cons, List.length_cons, ih]

/-- A text that reindenting gives back is given back line by line. -/
theorem reindent_eq_self_iff (text : Text) :
    reindent unit text = text ↔ layOut unit 0 (Text.linePieces text) = Text.linePieces text := by
  have hterminated : Text.Terminated (layOut unit 0 (Text.linePieces text)) :=
    terminated_layOut (Text.terminated_linePieces text)
  rw [reindent_eq_layOut]
  constructor
  · intro h
    have hread : Text.linePieces text = Text.settle (layOut unit 0 (Text.linePieces text)) := by
      rw [← Text.linePieces_joined hterminated, h]
    -- as many pieces are read back as were laid out, so none of them was lost
    have hlength : (Text.settle (layOut unit 0 (Text.linePieces text))).length =
        (layOut unit 0 (Text.linePieces text)).length := by
      rw [← hread, length_layOut]
    rw [← Text.settle_eq_self_of_length hlength, ← hread]
  · intro h
    rw [h, Text.joined_linePieces]

/-- Reindenting a text changes nothing if and only if every line stands at the column asked for
it. -/
theorem changed_eq_false_iff (settings : Settings) (text : Text) :
    (run settings text).changed = false ↔
      ∀ i line, (Text.splitLines text)[i]? = some line →
        StandsAt (lineColumn settings text i) line.text := by
  have hlayOut := layOut_eq_self_iff settings.indentUnit [] (Text.splitLines text)
  rw [Text.map_splitLines, ← show 0 = baseColumn settings.indentUnit [] from rfl,
    ← reindent_eq_self_iff] at hlayOut
  rw [Outcome.changed, bne_eq_false_iff_eq, run, hlayOut]
  refine forall₃_congr fun i line hline => ?_
  rw [lineColumn, hline, List.append_nil]
  rfl

/-! ### The base behind pieces -/

theorem layOut_append (unit base : Nat) (front back : List (Text × Text)) :
    layOut unit base (front ++ back) =
      layOut unit base front ++ layOut unit (baseBehind unit base front) back := by
  induction front generalizing base with
  | nil => rfl
  | cons piece front ih =>
    rw [List.cons_append, layOut, layOut, ih, List.cons_append, baseBehind, baseBehind,
      List.foldl_cons]

/-- The base behind pieces does not depend on the margins. -/
theorem baseBehind_layOut (unit base base' : Nat) (pieces : List (Text × Text)) :
    baseBehind unit base (layOut unit base' pieces) = baseBehind unit base pieces := by
  induction pieces generalizing base base' with
  | nil => rfl
  | cons piece pieces ih =>
    simpa only [layOut, baseBehind, List.foldl_cons, baseAfter_congr trimLeft_placedText] using
      ih (baseAfter unit base piece.1) (baseAfter unit base' piece.1)

/-- The base behind pieces is the same when they are read back first. -/
theorem baseBehind_settle (pieces : List (Text × Text)) :
    baseBehind unit base (Text.settle pieces) = baseBehind unit base pieces := by
  have hempty (base : Nat) : baseAfter unit base [] = base := baseAfter_of_blank rfl
  induction pieces generalizing base with
  | nil => rfl
  | cons piece pieces ih =>
    have hattach : baseBehind unit base (Text.attach piece (Text.settle pieces)) =
        baseBehind unit base (piece :: Text.settle pieces) := by
      unfold Text.attach
      split_ifs with hglue hnone
      · obtain ⟨rest, hrest⟩ := List.head?_eq_some_iff.mp hglue.2
        simp [hrest, baseBehind, hempty]
      · simp [hnone, baseBehind, hempty]
      · rfl
    rw [Text.settle_cons, hattach]
    exact ih

/-- Lines at rest give the base as they stand. -/
theorem baseColumn_asTheyStand (unit : Nat) (above : List PlacedLine) (lines : List SourceLine)
    (h : layOut unit (baseColumn unit above) (lines.map fun l => (l.text, l.terminator)) =
      lines.map fun l => (l.text, l.terminator)) :
    baseColumn unit ((lines.map (asItStands unit)).reverse ++ above) =
      baseBehind unit (baseColumn unit above) (lines.map fun l => (l.text, l.terminator)) := by
  induction lines generalizing above with
  | nil => rfl
  | cons line lines ih =>
    rw [List.map_cons, layOut, List.cons.injEq, Prod.mk.injEq] at h
    obtain ⟨⟨hplaced, -⟩, hrest⟩ := h
    have hbase := baseColumn_asItStands hplaced
    rw [← hbase] at hrest
    rw [List.map_cons, List.reverse_cons, List.append_assoc, List.singleton_append,
      ih _ hrest, hbase, List.map_cons, baseBehind, baseBehind, List.foldl_cons]

/-! ### One line after another -/

/-- Behind a text at rest, the column asked for a further line is that of the layout. -/
theorem lineColumn_append (settings : Settings) {done : Text}
    (hrest : reindent settings.indentUnit done = done)
    (hread : Text.linePieces (done ++ line) = Text.linePieces done ++ [(line, [])]) :
    lineColumn settings (done ++ line) (Text.splitLines done).length =
      columnAt settings.indentUnit
        (baseBehind settings.indentUnit 0 (Text.linePieces done)) line := by
  have hlength : (Text.splitLines done).length = (Text.linePieces done).length := by
    rw [← Text.map_splitLines, List.length_map]
  have habove : ((Text.splitLines (done ++ line)).take (Text.splitLines done).length).map
      (fun l => (l.text, l.terminator)) = Text.linePieces done := by
    rw [List.map_take, Text.map_splitLines, hread, hlength, List.take_left]
  have hcurrent : (Text.splitLines (done ++ line))[(Text.splitLines done).length]? =
      some ⟨(Text.splitLines done).length, line, []⟩ := by
    rw [Text.getElem?_splitLines_eq_some_iff, hread, hlength, List.getElem?_concat_length]
    exact ⟨rfl, rfl⟩
  have hbase := baseColumn_asTheyStand settings.indentUnit []
    ((Text.splitLines (done ++ line)).take (Text.splitLines done).length)
  rw [habove, List.append_nil] at hbase
  rw [lineColumn, hcurrent, Option.elim_some, columnBelow,
    hbase ((reindent_eq_self_iff done).mp hrest)]
  rfl

/-- The lines in front of a line are laid out alike without it. -/
theorem run_take_splitLines (settings : Settings) (text : Text) (i : Nat) :
    (run settings (((Text.splitLines text).take i).flatMap SourceLine.full)).formatted =
      Text.joined (layOut settings.indentUnit 0 ((Text.linePieces text).take i)) := by
  have hterminated : Text.Terminated
      ((Text.linePieces text).take i ++ (Text.linePieces text).drop i) := by
    rw [List.take_append_drop]
    exact Text.terminated_linePieces text
  rw [run, Text.flatMap_full_take_splitLines, reindent_eq_layOut,
    Text.linePieces_joined hterminated.of_append, joined_layOut_settle]

/-- Reindenting a text is reindenting its lines one by one from the top: what becomes of the lines
in front of a line is followed by the line at the column asked for it there. -/
theorem run_prefix_append (settings : Settings) (text : Text) (i : Nat) (line : SourceLine)
    (hline : (Text.splitLines text)[i]? = some line) (hvisible : line.isBlank = false) :
    let before := ((Text.splitLines text).take i).flatMap SourceLine.full
    let done := (run settings before).formatted
    let column := lineColumn settings (done ++ line.text) (Text.splitLines done).length
    done ++ (Margin.spaces column ++ Margin.body line.text ++ line.terminator) <+:
      (run settings text).formatted := by
  intro before done column
  obtain ⟨back, hpieces⟩ := Text.exists_linePieces_eq hline
  have hdone : done = Text.joined
      (layOut settings.indentUnit 0 ((Text.linePieces text).take i)) :=
    run_take_splitLines settings text i
  generalize (Text.linePieces text).take i = front at hpieces hdone
  have hbehind := layOut_append settings.indentUnit 0 front ((line.text, line.terminator) :: back)
  have hplaced : Text.Terminated (layOut settings.indentUnit 0
      (front ++ (line.text, line.terminator) :: back)) :=
    terminated_layOut (hpieces ▸ Text.terminated_linePieces text)
  rw [hbehind, layOut] at hplaced
  have hcolumn : column =
      columnAt settings.indentUnit (baseBehind settings.indentUnit 0 front) line.text := by
    have hunbroken := Text.unbroken_of_mem_splitLines (List.mem_of_getElem? hline)
    have hne : line.text ≠ [] := by
      rintro hnil
      simp [SourceLine.isBlank, hnil, Text.allBlank] at hvisible
    have hread : Text.linePieces (done ++ line.text) =
        Text.linePieces done ++ [(line.text, [])] := by
      rw [hdone]
      exact Text.linePieces_joined_append hplaced hunbroken hne
    have hrest : reindent settings.indentUnit done = done := reindent_reindent _ before
    have hasked : column = columnAt settings.indentUnit
        (baseBehind settings.indentUnit 0 (Text.linePieces done)) line.text :=
      lineColumn_append settings hrest hread
    rw [hasked, hdone, Text.linePieces_joined hplaced.of_append, baseBehind_settle,
      baseBehind_layOut]
  have hformatted : (run settings text).formatted =
      done ++ (placedText settings.indentUnit (baseBehind settings.indentUnit 0 front) line.text ++
        line.terminator) ++ Text.joined (layOut settings.indentUnit
          (baseAfter settings.indentUnit (baseBehind settings.indentUnit 0 front) line.text)
          back) := by
    rw [run, reindent_eq_layOut, hpieces, hbehind, layOut, hdone]
    simp [Text.joined]
  rw [hformatted, hcolumn, placedText, if_neg (by simpa [SourceLine.isBlank] using hvisible)]
  exact List.prefix_append _ _

/-- A source in which the line feed of an emptied line goes to the line in front of it, so that the
last line has another number in the reindented text. -/
def fusedSource : Text := "if x \x7b\r \n\ty\n".toList

theorem run_prefix_append_fusedSource :
    (Text.splitLines fusedSource)[2]? = some ⟨2, "\ty".toList, ['\n']⟩ ∧
      SourceLine.isBlank ⟨2, "\ty".toList, ['\n']⟩ = false ∧
      "if x \x7b\r\n".toList ++ ("    ".toList ++ "y".toList ++ ['\n']) <+:
        (run .default fusedSource).formatted := by
  have hline : (Text.splitLines fusedSource)[2]? = some ⟨2, "\ty".toList, ['\n']⟩ := by
    decide +kernel
  have hvisible : SourceLine.isBlank ⟨2, "\ty".toList, ['\n']⟩ = false := by decide +kernel
  have hdone : (run .default (((Text.splitLines fusedSource).take 2).flatMap
      SourceLine.full)).formatted = "if x \x7b\r\n".toList := by decide +kernel
  have hcolumn : lineColumn .default ("if x \x7b\r\n".toList ++ "\ty".toList)
      (Text.splitLines "if x \x7b\r\n".toList).length = 4 := by decide +kernel
  have hstart := run_prefix_append .default fusedSource 2 _ hline hvisible
  simp only [hdone, hcolumn] at hstart
  exact ⟨hline, hvisible, hstart⟩

end Reindent
end AmberTools
