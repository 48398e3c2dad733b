import AmberTools.Proofs.Reindent.SingleLine
import AmberTools.Proofs.Reindent.Structure
import AmberTools.Proofs.Text.Unified

/-!
# Reindenting a text with unified line breaks

Where a line goes does not depend on the line breaks around it. A text is therefore at rest just
when it is at rest with its line breaks unified. If it has no blank line, no line break meets
another when the lines have been placed, so that unifying and reindenting can be done in either
order.

## Main results

* `Reindent.linePieces_reindent`: the pieces of a reindented text without blank lines.
* `Reindent.reindent_unifyBreaks`: such a text can be unified first or last.
* `Reindent.reindent_unifyBreaks_eq_self_iff`: unifying line breaks moves no line.
-/

namespace AmberTools
namespace Reindent

variable {unit base : Nat}

/-- A layout does not look at the terminators. -/
theorem layOut_map_snd (f : Text → Text) (pieces : List (Text × Text)) :
    layOut unit base (pieces.map fun piece => (piece.1, f piece.2)) =
      (layOut unit base pieces).map fun piece => (piece.1, f piece.2) := by
  induction pieces generalizing base with
  | nil => rfl
  | cons piece pieces ih => rw [List.map_cons, layOut, layOut, List.map_cons, ih]

/-- A line at its place is empty only if it is blank. -/
theorem ne_nil_of_mem_layOut {pieces : List (Text × Text)}
    (h : ∀ piece ∈ pieces, Text.allBlank piece.1 = false) :
    ∀ piece ∈ layOut unit base pieces, piece.1 ≠ [] := by
  induction pieces generalizing base with
  | nil => simp [layOut]
  | cons piece pieces ih =>
    rw [List.forall_mem_cons] at h
    rw [layOut, List.forall_mem_cons]
    refine ⟨fun hnil => ?_, ih h.2⟩
    exact Bool.false_ne_true (h.1.symm.trans (placedText_eq_nil_iff.mp hnil))

section Visible

variable {text : Text} (h : ∀ piece ∈ Text.linePieces text, Text.allBlank piece.1 = false)
include h

/-- A text without blank lines is reindented line by line. -/
theorem linePieces_reindent :
    Text.linePieces (reindent unit text) = layOut unit 0 (Text.linePieces text) := by
  rw [reindent_eq_layOut,
    Text.linePieces_joined (terminated_layOut (Text.terminated_linePieces text)),
    Text.settle_eq_self_of_ne_nil (ne_nil_of_mem_layOut h)]

/-- A text without blank lines keeps its terminators. -/
theorem map_snd_linePieces_reindent :
    (Text.linePieces (reindent unit text)).map Prod.snd =
      (Text.linePieces text).map Prod.snd := by
  rw [linePieces_reindent h, map_snd_layOut]

/-- The line breaks of a text without blank lines can be unified first or last. -/
theorem reindent_unifyBreaks :
    reindent unit (Text.unifyBreaks text) = Text.unifyBreaks (reindent unit text) := by
  rw [Text.unifyBreaks_eq_joined (reindent unit text), linePieces_reindent h,
    reindent_eq_layOut, Text.linePieces_unifyBreaks, layOut_map_snd]

end Visible

/-- A text is at rest if and only if it is at rest with its line breaks unified. -/
theorem reindent_unifyBreaks_eq_self_iff (text : Text) :
    reindent unit (Text.unifyBreaks text) = Text.unifyBreaks text ↔ reindent unit text = text := by
  rw [reindent_eq_self_iff, reindent_eq_self_iff, Text.linePieces_unifyBreaks, layOut_map_snd]
  constructor
  · intro h
    -- the lines are the same, and a layout keeps the terminators in any case
    have hlines := congrArg (List.map Prod.fst) h
    rw [List.map_map, List.map_map] at hlines
    rw [List.zip_of_prod hlines (map_snd_layOut _)]
    exact (List.zip_of_prod rfl rfl).symm
  · intro h
    rw [h]

end Reindent
end AmberTools
