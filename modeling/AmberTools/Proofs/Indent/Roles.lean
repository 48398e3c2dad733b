import AmberTools.Indent.Line
import AmberTools.Proofs.Text.Trim

/-!
# Roles and margins

The role of a line, and whether it starts with a closing bracket, depend only on what follows the
blank characters at its start. So a line keeps its role when it is indented anew.

## Main results

* `Indent.Role.ofLine_congr`, `Indent.startsClosing_congr`: blank characters at the start are
  irrelevant.
* `Indent.startsClosing_of_closer`, `Indent.startsClosing_of_opener`: the lines that end a block
  start with a closing bracket, and those that start one do not.
-/

namespace AmberTools

theorem Text.allBlank_congr {a b : Text} (h : Text.trimLeft a = Text.trimLeft b) :
    Text.allBlank a = Text.allBlank b := by
  rw [Bool.eq_iff_iff, Text.allBlank_iff_trimLeft, Text.allBlank_iff_trimLeft, h]

namespace Indent

theorem Role.ofLine_congr {a b : Text} (h : Text.trimLeft a = Text.trimLeft b) :
    Role.ofLine a = Role.ofLine b := by
  have hblock : startsBlock a = startsBlock b := by rw [startsBlock, startsBlock, h]
  have hdangling : isDanglingCloser a = isDanglingCloser b := by
    rw [isDanglingCloser, isDanglingCloser, h]
  simp only [Role.ofLine, Text.allBlank_congr h, hblock, hdangling]

theorem startsClosing_congr {a b : Text} (h : Text.trimLeft a = Text.trimLeft b) :
    startsClosing a = startsClosing b := by
  simp only [startsClosing, Text.firstSignificant?, h]

theorem Role.ofLine_eq_blank_iff {line : Text} :
    Role.ofLine line = .blank ↔ Text.allBlank line = true := by
  unfold Role.ofLine
  split_ifs <;> simp_all

/-- A line that ends a block starts with its brace. -/
theorem startsClosing_of_closer {line : Text} (h : Role.ofLine line = .closer) :
    startsClosing line = true := by
  have hdangling : isDanglingCloser line = true := by
    unfold Role.ofLine at h
    split_ifs at h
    assumption
  unfold isDanglingCloser at hdangling
  split at hdangling
  · rename_i rest htrim
    rw [startsClosing, Text.firstSignificant?, htrim]
    rfl
  · contradiction

/-- No closing bracket is part of a word. -/
theorem isWord_of_mem_closingBrackets {c : Char} (h : c ∈ closingBrackets) :
    Text.isWord c = false ∧ c ≠ '\x7b' := by
  simp only [closingBrackets, List.mem_cons, List.not_mem_nil, or_false] at h
  rcases h with rfl | rfl | rfl <;> decide

/-- A line that starts a block starts with a brace or a word, not with a closing bracket. -/
theorem startsClosing_of_opener {line : Text} (h : Role.ofLine line = .opener) :
    startsClosing line = false := by
  have hblock : startsBlock line = true := by
    unfold Role.ofLine at h
    split_ifs at h
    assumption
  rw [startsClosing, Text.firstSignificant?]
  unfold startsBlock at hblock
  cases htrim : Text.trimLeft line with
  | nil => rfl
  | cons c rest =>
    by_contra hclosing
    have hmem : c ∈ closingBrackets := by simpa using hclosing
    obtain ⟨hword, hbrace⟩ := isWord_of_mem_closingBrackets hmem
    simp [htrim, hword, hbrace, openerWords] at hblock

end Indent
end AmberTools
