import AmberTools.Proofs.Reindent.Layout
import AmberTools.Proofs.Text.Settled
import Mathlib.Data.List.Forall2

/-!
# The lines of a reindented text

Reindenting works on one line at a time: it empties a blank line, puts spaces in front of the body
of any other line, and keeps the terminator. The lines of the text that comes out are therefore
the lines of the source, with two exceptions where an emptied line cannot be told from nothing.
A blank last line without terminator is gone. And where a blank line ended by a line feed follows
a line ended by a carriage return alone, emptying it brings the two line breaks together, so that
they are read as one.

## Main definitions

* `Reindent.keptLines`: the lines of a text of which something is left.
* `Reindent.fuseFeeds`: lines after blank ones have given their line feeds away.
* `Reindent.Reindents`: what a line and its place in the reindented text have in common.

## Main results

* `Reindent.run_splitLines`: the lines of a reindented text.
-/

namespace AmberTools
namespace Reindent

/-- The lines of a text but for a last one that is blank and has no terminator. -/
def keptLines (text : Text) : List SourceLine :=
  (Text.splitLines text).filter fun line => !(line.isBlank && line.terminator.isEmpty)

/-- The line feed behind a blank line belongs to the carriage return in front of that line as soon
as the line is empty. -/
def GivesFeed (line next : SourceLine) : Prop :=
  line.terminator = ['\r'] ∧ next.isBlank = true ∧ next.terminator = ['\n']

instance (line next : SourceLine) : Decidable (GivesFeed line next) :=
  inferInstanceAs (Decidable (_ ∧ _))

/-- The lines with each blank line that gives its line feed away taken into the line before it. -/
def fuseFeeds : List SourceLine → List SourceLine
  | line :: next :: lines =>
    if GivesFeed line next then { line with terminator := ['\r', '\n'] } :: fuseFeeds lines
    else line :: fuseFeeds (next :: lines)
  | [line] => [line]
  | [] => []

/-- A line ends as the source line does. It is empty if the source line is blank, and has the body
of any other source line behind some number of spaces. -/
def Reindents (source line : SourceLine) : Prop :=
  line.terminator = source.terminator ∧
    if source.isBlank then line.text = []
    else ∃ column, line.text = Margin.spaces column ++ Margin.body source.text

/-- A piece as a line. Its number does not matter here. -/
def ofPiece (piece : Text × Text) : SourceLine := ⟨0, piece.1, piece.2⟩

variable {unit base : Nat}

/-! ### Single lines -/

theorem placedText_eq_nil_iff {line : Text} :
    placedText unit base line = [] ↔ Text.allBlank line = true := by
  constructor
  · intro h
    have htrim : Text.trimLeft (placedText unit base line) = Text.trimLeft line :=
      trimLeft_placedText
    rw [Text.allBlank_iff_trimLeft, ← htrim, h]
    rfl
  · intro h
    rw [placedText, if_pos h]

theorem reindents_placedText (line : SourceLine) :
    Reindents line (ofPiece (placedText unit base line.text, line.terminator)) := by
  refine ⟨rfl, ?_⟩
  split_ifs with hblank
  · exact placedText_eq_nil_iff.mpr hblank
  · exact ⟨columnAt unit base line.text, if_neg hblank⟩

/-- An empty line of the reindented text lies in place of a blank line, and only there. -/
theorem Reindents.eq_empty_iff {source : SourceLine} {piece : Text × Text}
    (h : Reindents source (ofPiece piece)) (terminator : Text) :
    piece = ([], terminator) ↔ source.isBlank = true ∧ source.terminator = terminator := by
  obtain ⟨hterminator, htext⟩ := h
  have hempty : piece.1 = [] ↔ source.isBlank = true := by
    split_ifs at htext with hblank
    · exact iff_of_true htext hblank
    · obtain ⟨column, htext⟩ := htext
      refine iff_of_false (fun hnil => hblank ?_) hblank
      have htrim : Text.trimLeft source.text = [] := by
        rw [← Margin.trimLeft_indented column, Margin.indented, ← htext]
        exact congrArg Text.trimLeft hnil
      exact Text.allBlank_iff_trimLeft.mpr htrim
  rw [Prod.ext_iff, ← hempty, ← hterminator]
  rfl

/-! ### Lists of lines -/

/-- The pieces of a layout lie one by one in place of the lines. -/
theorem forall₂_reindents_layOut (unit base : Nat) (lines : List SourceLine) :
    List.Forall₂ (fun source piece => Reindents source (ofPiece piece)) lines
      (layOut unit base (lines.map fun line => (line.text, line.terminator))) := by
  induction lines generalizing base with
  | nil => exact .nil
  | cons line lines ih => exact .cons (reindents_placedText line) (ih _)

/-- Reading pieces back fuses the lines in whose place they lie. -/
theorem forall₂_fuseFeeds_settle {lines : List SourceLine} {pieces : List (Text × Text)}
    (h : List.Forall₂ (fun source piece => Reindents source (ofPiece piece)) lines pieces)
    (hnone : ([], []) ∉ pieces) :
    List.Forall₂ (fun source piece => Reindents source (ofPiece piece))
      (fuseFeeds lines) (Text.settle pieces) := by
  fun_induction fuseFeeds lines generalizing pieces with
  | case1 line next lines hgives ih =>
    obtain ⟨hreturn, hnext⟩ := hgives
    obtain ⟨piece, _, hline, hlines, rfl⟩ := List.forall₂_cons_left_iff.mp h
    obtain ⟨second, pieces, hsecond, hrest, rfl⟩ := List.forall₂_cons_left_iff.mp hlines
    obtain rfl : second = ([], ['\n']) := (hsecond.eq_empty_iff _).mpr hnext
    have hpiece : piece.2 = ['\r'] := hline.1.trans hreturn
    have hsettle : Text.settle (piece :: ([], ['\n']) :: pieces) =
        (piece.1, ['\r', '\n']) :: Text.settle pieces := by
      simp [Text.settle_cons, Text.attach, hpiece]
    rw [hsettle]
    exact .cons ⟨rfl, hline.2⟩ (ih hrest fun hmem => hnone (by simp [hmem]))
  | case2 line next lines hgives ih =>
    obtain ⟨piece, _, hline, hlines, rfl⟩ := List.forall₂_cons_left_iff.mp h
    obtain ⟨second, pieces, hsecond, -, rfl⟩ := List.forall₂_cons_left_iff.mp hlines
    rw [List.mem_cons, not_or] at hnone
    have hsettle : Text.settle (piece :: second :: pieces) =
        piece :: Text.settle (second :: pieces) := by
      refine Text.settle_cons_of_not_fused (Ne.symm hnone.1) ?_
      rintro ⟨hreturn, hhead⟩
      have hne : second ≠ ([], []) := by
        rintro rfl
        exact hnone.2 List.mem_cons_self
      have hfeed := (Text.head?_settle_cons_eq_feed hne pieces).mp hhead
      exact hgives ⟨hline.1.symm.trans hreturn, (hsecond.eq_empty_iff _).mp hfeed⟩
    rw [hsettle]
    exact .cons hline (ih hlines hnone.2)
  | case3 line =>
    obtain ⟨piece, _, hline, hlines, rfl⟩ := List.forall₂_cons_left_iff.mp h
    obtain rfl := List.forall₂_nil_left_iff.mp hlines
    rw [List.mem_singleton] at hnone
    rw [Text.settle_cons_of_not_fused (Ne.symm hnone) (by simp [Text.settle])]
    exact .cons hline .nil
  | case4 =>
    obtain rfl := List.forall₂_nil_left_iff.mp h
    exact .nil

/-- Reindenting puts no carriage return into a text. -/
theorem return_notMem_formatted (settings : Settings) {text : Text} (h : '\r' ∉ text) :
    '\r' ∉ (run settings text).formatted := by
  rw [show (run settings text).formatted = _ from reindent_eq_layOut settings.indentUnit text]
  refine (terminated_layOut (Text.terminated_linePieces text)).return_notMem_joined ?_
  rw [map_snd_layOut]
  exact Text.return_notMem_terminator h

/-- The lines of a reindented text are those of the source that are not lost, in order and with
their terminators, but that blank lines give their line feeds to carriage returns. Blank lines are
empty, and every other line has its body behind spaces. -/
theorem run_splitLines (settings : Settings) (text : Text) :
    List.Forall₂ Reindents (fuseFeeds (keptLines text))
      (Text.splitLines (run settings text).formatted) := by
  have hplaced := forall₂_reindents_layOut settings.indentUnit 0 (Text.splitLines text)
  rw [Text.map_splitLines] at hplaced
  have hkept : List.Forall₂ (fun source piece => Reindents source (ofPiece piece)) (keptLines text)
      ((layOut settings.indentUnit 0 (Text.linePieces text)).filter
        fun piece => decide (piece ≠ ([], []))) := by
    refine List.rel_filter ?_ hplaced
    intro source piece hpiece
    simp [hpiece.eq_empty_iff, SourceLine.isBlank]
  have hread := forall₂_fuseFeeds_settle hkept (by simp)
  have hterminated : Text.Terminated (layOut settings.indentUnit 0 (Text.linePieces text)) :=
    terminated_layOut (Text.terminated_linePieces text)
  rw [Text.settle_filter_ne_nil, ← Text.linePieces_joined hterminated, ← reindent_eq_layOut,
    ← Text.map_splitLines, List.forall₂_map_right_iff] at hread
  exact hread

/-- Two lines of a text may become one. -/
theorem not_reindents_of_fused_feed :
    ¬ List.Forall₂ Reindents (keptLines "a\r \n".toList)
      (Text.splitLines (run .default "a\r \n".toList).formatted) := by
  intro h
  have hlength := h.length_eq
  revert hlength
  decide +kernel

end Reindent
end AmberTools
