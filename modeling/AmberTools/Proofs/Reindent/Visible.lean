import AmberTools.Proofs.Reindent.Layout
import AmberTools.Proofs.Text.Settled

/-!
# Visible lines

A blank line gives the base on as it got it, and nothing of it is left at its place. So the lines
that are not blank are laid out as if there were no others. When the text is read back, an emptied
line may disappear or lend its line feed to the line in front of it, but no visible line is touched.
Therefore the visible lines of a reindented text are those of the source, placed one below the
other. They depend on the bodies of those lines only, and show them.

## Main definitions

* `Text.visibleLines`: the lines of a text that are not blank.
* `Reindent.placedLines`: lines at their places, one below the other.

## Main results

* `Text.visible_settle`: visible lines are read back as they are.
* `Reindent.visibleLines_run`: the visible lines of a reindented text.
* `Reindent.visibleLines_run_eq_iff`: texts whose visible lines are reindented alike.
-/

namespace AmberTools

namespace Text

/-- The lines of a text that are not blank. -/
def visibleLines (text : Text) : List Text :=
  ((splitLines text).filter fun line => !line.isBlank).map (·.text)

/-- The lines of pieces that are not blank. -/
def visible (pieces : List (Text × Text)) : List Text :=
  (pieces.map Prod.fst).filter fun line => !allBlank line

variable {line terminator : Text} {pieces : List (Text × Text)}

theorem visible_cons_of_blank (h : allBlank line = true) :
    visible ((line, terminator) :: pieces) = visible pieces := by
  rw [visible, List.map_cons, List.filter_cons_of_neg (by simp [h]), visible]

theorem visible_cons_of_visible (h : allBlank line = false) :
    visible ((line, terminator) :: pieces) = line :: visible pieces := by
  rw [visible, List.map_cons, List.filter_cons_of_pos (by simp [h]), visible]

/-- Terminators have no part in what is visible. -/
theorem visible_cons_congr {rest : List (Text × Text)} (h : visible pieces = visible rest)
    (line terminator terminator' : Text) :
    visible ((line, terminator) :: pieces) = visible ((line, terminator') :: rest) := by
  cases hline : allBlank line with
  | true => rw [visible_cons_of_blank hline, visible_cons_of_blank hline, h]
  | false => rw [visible_cons_of_visible hline, visible_cons_of_visible hline, h]

theorem visibleLines_eq_visible (text : Text) : visibleLines text = visible (linePieces text) := by
  rw [visible, ← map_text_splitLines, List.filter_map]
  rfl

theorem allBlank_of_mem_visibleLines {text : Text} (h : line ∈ visibleLines text) :
    allBlank line = false := by
  rw [visibleLines_eq_visible, visible, List.mem_filter] at h
  simpa using h.2

/-- What a piece that is attached to others takes up or loses is empty. -/
theorem visible_attach (piece : Text × Text) (pieces : List (Text × Text)) :
    visible (attach piece pieces) = visible (piece :: pieces) := by
  obtain ⟨line, terminator⟩ := piece
  unfold attach
  split_ifs with hglue hnone
  · obtain ⟨rest, rfl⟩ : ∃ rest, pieces = ([], ['\n']) :: rest := by
      cases pieces with
      | nil => simp at hglue
      | cons next rest => exact ⟨rest, by simpa using hglue.2⟩
    exact visible_cons_congr (visible_cons_of_blank rfl).symm _ _ _
  · obtain ⟨rfl, rfl⟩ := Prod.mk.inj hnone
    exact (visible_cons_of_blank rfl).symm
  · rfl

/-- Visible lines are read back as they are. -/
theorem visible_settle (pieces : List (Text × Text)) :
    visible (settle pieces) = visible pieces := by
  induction pieces with
  | nil => rfl
  | cons piece pieces ih =>
    rw [settle_cons, visible_attach]
    exact visible_cons_congr ih _ _ _

end Text

namespace Reindent

/-- Lines at their places, below lines that give a base. -/
def placedLines (unit : Nat) : Nat → List Text → List Text
  | _, [] => []
  | base, line :: lines =>
    placedText unit base line :: placedLines unit (baseAfter unit base line) lines

variable {unit base : Nat}

theorem allBlank_placedText (line : Text) :
    Text.allBlank (placedText unit base line) = Text.allBlank line :=
  Text.allBlank_congr trimLeft_placedText

/-- Blank lines can be left out before the others are placed. -/
theorem visible_layOut (pieces : List (Text × Text)) :
    Text.visible (layOut unit base pieces) = placedLines unit base (Text.visible pieces) := by
  induction pieces generalizing base with
  | nil => rfl
  | cons piece pieces ih =>
    obtain ⟨line, terminator⟩ := piece
    rw [layOut]
    cases hline : Text.allBlank line with
    | true =>
      have hplaced : Text.allBlank (placedText unit base line) = true := by
        rw [allBlank_placedText, hline]
      rw [Text.visible_cons_of_blank hplaced, Text.visible_cons_of_blank hline,
        baseAfter_of_blank hline, ih]
    | false =>
      have hplaced : Text.allBlank (placedText unit base line) = false := by
        rw [allBlank_placedText, hline]
      rw [Text.visible_cons_of_visible hplaced, Text.visible_cons_of_visible hline, placedLines, ih]

/-- The visible lines of a reindented text are those of the source at their places. -/
theorem visibleLines_run (settings : Settings) (text : Text) :
    Text.visibleLines (run settings text).formatted =
      placedLines settings.indentUnit 0 (Text.visibleLines text) := by
  have hterminated : Text.Terminated (layOut settings.indentUnit 0 (Text.linePieces text)) :=
    terminated_layOut (Text.terminated_linePieces text)
  rw [Text.visibleLines_eq_visible, Text.visibleLines_eq_visible,
    show (run settings text).formatted = _ from reindent_eq_layOut settings.indentUnit text,
    Text.linePieces_joined hterminated, Text.visible_settle, visible_layOut]

/-! ### Bodies -/

theorem placedText_body (line : Text) :
    placedText unit base (Margin.body line) = placedText unit base line := by
  have htrim := Margin.trimLeft_body line
  have hbody : Margin.body (Margin.body line) = Margin.body line := List.dropWhile_idempotent ..
  rw [placedText, placedText, Text.allBlank_congr htrim, columnAt_congr htrim, Margin.indented,
    Margin.indented, hbody]

/-- Only the bodies of lines count for where they go. -/
theorem placedLines_map_body (lines : List Text) :
    placedLines unit base (lines.map Margin.body) = placedLines unit base lines := by
  induction lines generalizing base with
  | nil => rfl
  | cons line lines ih =>
    rw [List.map_cons, placedLines, placedLines, placedText_body,
      baseAfter_congr (Margin.trimLeft_body line), ih]

theorem placedText_of_visible {line : Text} (h : Text.allBlank line = false) :
    placedText unit base line = Margin.indented (columnAt unit base line) line :=
  if_neg (by simp [h])

/-- Lines at their places show their bodies. -/
theorem map_body_placedLines {lines : List Text} (h : ∀ line ∈ lines, Text.allBlank line = false) :
    (placedLines unit base lines).map Margin.body = lines.map Margin.body := by
  induction lines generalizing base with
  | nil => rfl
  | cons line lines ih =>
    rw [List.forall_mem_cons] at h
    rw [placedLines, List.map_cons, List.map_cons, placedText_of_visible h.1,
      Margin.body_indented, ih h.2]

/-- The visible lines of two texts are reindented alike if and only if they have the same bodies in
the same order. Neither blank lines nor terminators nor old margins have a part in it. -/
theorem visibleLines_run_eq_iff (settings : Settings) (s t : Text) :
    Text.visibleLines (run settings s).formatted = Text.visibleLines (run settings t).formatted ↔
      (Text.visibleLines s).map Margin.body = (Text.visibleLines t).map Margin.body := by
  rw [visibleLines_run, visibleLines_run]
  constructor
  · intro h
    have hbodies := congrArg (List.map Margin.body) h
    rwa [map_body_placedLines fun _ => Text.allBlank_of_mem_visibleLines,
      map_body_placedLines fun _ => Text.allBlank_of_mem_visibleLines] at hbodies
  · intro h
    rw [← placedLines_map_body (Text.visibleLines s), h, placedLines_map_body]

end Reindent
end AmberTools
