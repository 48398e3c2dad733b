import AmberTools.Text.Blank
import AmberTools.Text.Margin
import Mathlib.Data.List.DropRight

/-!
# Trimmed texts and margins

Trimming takes away characters that satisfy a test, so it leaves a text alone where none does.
The margin of a line is blank. What a line says once blank characters at its start are passed
over is therefore the same for every margin.

## Main results

* `Text.trim_eq_self_iff`: texts without blank characters at either end.
* `Margin.body_indented`: a line's body is all that is left of it under a new margin.
* `Margin.trimLeft_indented`: a new margin is passed over.
-/

namespace AmberTools

namespace Text

/-- Nothing is dropped from the end of a text where the test never holds. -/
theorem dropRightWhile_eq_self {p : Char → Bool} {text : Text} (h : ∀ c ∈ text, p c = false) :
    dropRightWhile p text = text :=
  List.rdropWhile_eq_self_iff.mpr fun hne => by simp [h _ (List.getLast_mem hne)]

/-- An ending on which the test holds throughout is dropped first. -/
theorem dropRightWhile_append {p : Char → Bool} {ending : Text} (h : ∀ c ∈ ending, p c = true)
    (text : Text) : dropRightWhile p (text ++ ending) = dropRightWhile p text := by
  rw [dropRightWhile, List.reverse_append,
    List.dropWhile_append_of_pos fun c hc => h c (List.mem_reverse.mp hc), ← dropRightWhile]

theorem length_trimRight_le (text : Text) : (trimRight text).length ≤ text.length :=
  (List.rdropWhile_prefix isBlank text).length_le

/-- A text is trimmed if and only if it is trimmed on both sides. -/
theorem trim_eq_self_iff {text : Text} :
    trim text = text ↔ trimLeft text = text ∧ trimRight text = text := by
  constructor
  · intro h
    -- each side only shortens the text, and together they do not
    have hlength : (trimLeft text).length = text.length := by
      have hle : (trimLeft text).length ≤ text.length := List.length_dropWhile_le ..
      have hge := length_trimRight_le (trimLeft text)
      rw [← trim, h] at hge
      omega
    have hleft : trimLeft text = text :=
      (List.dropWhile_suffix isBlank).eq_of_length hlength
    rw [trim, hleft] at h
    exact ⟨hleft, h⟩
  · rintro ⟨hleft, hright⟩
    rw [trim, hleft, hright]

theorem trimLeft_trimLeft (text : Text) : trimLeft (trimLeft text) = trimLeft text :=
  List.dropWhile_idempotent ..

theorem trimRight_trimRight (text : Text) : trimRight (trimRight text) = trimRight text :=
  List.rdropWhile_idempotent ..

/-- A beginning of a text starts like the text. -/
theorem trimLeft_of_prefix {a b : Text} (h : a <+: b) (hb : trimLeft b = b) : trimLeft a = a := by
  cases a with
  | nil => rfl
  | cons c a =>
    obtain ⟨rest, rfl⟩ := h
    have hhead := List.head?_dropWhile_not isBlank (c :: a ++ rest)
    rw [← trimLeft, hb] at hhead
    have hc : isBlank c = false := by simpa using hhead
    simp [trimLeft, hc]

theorem notMem_trimLeft {c : Char} {text : Text} (h : c ∉ text) : c ∉ trimLeft text :=
  fun hmem => h ((List.dropWhile_suffix isBlank).subset hmem)

/-- Blank characters at the start are passed over. -/
theorem trimLeft_append {blank : Text} (h : ∀ c ∈ blank, isBlank c = true) (text : Text) :
    trimLeft (blank ++ text) = trimLeft text :=
  List.dropWhile_append_of_pos h

/-- A line is blank if and only if nothing of it remains behind blank characters. -/
theorem allBlank_iff_trimLeft {line : Text} : allBlank line = true ↔ trimLeft line = [] := by
  rw [allBlank, List.all_eq_true, trimLeft, List.dropWhile_eq_nil_iff]

end Text

namespace Margin

/-- The line with a margin of spaces in place of its own. -/
def indented (column : Nat) (line : Text) : Text := spaces column ++ body line

theorem eq_or_eq_of_isMargin {c : Char} (h : isMargin c = true) : c = ' ' ∨ c = '\t' := by
  simpa only [isMargin, Bool.or_eq_true, beq_iff_eq] using h

theorem isBlank_of_isMargin {c : Char} (h : isMargin c = true) : Text.isBlank c = true := by
  rcases eq_or_eq_of_isMargin h with rfl | rfl <;> decide

theorem isMargin_of_mem_spaces {c : Char} {column : Nat} (h : c ∈ spaces column) :
    isMargin c = true := by
  rw [List.eq_of_mem_replicate h]
  decide

/-- A line is its margin and its body. -/
theorem takeWhile_append_body (line : Text) : line.takeWhile isMargin ++ body line = line :=
  List.takeWhile_append_dropWhile

theorem trimLeft_body (line : Text) : Text.trimLeft (body line) = Text.trimLeft line := by
  have hblank : ∀ c ∈ line.takeWhile isMargin, Text.isBlank c = true := fun c hc =>
    isBlank_of_isMargin (List.mem_takeWhile_imp hc)
  conv_rhs => rw [← takeWhile_append_body line]
  rw [Text.trimLeft_append hblank]

theorem trimLeft_indented (column : Nat) (line : Text) :
    Text.trimLeft (indented column line) = Text.trimLeft line := by
  rw [indented, Text.trimLeft_append, trimLeft_body]
  exact fun c hc => isBlank_of_isMargin (isMargin_of_mem_spaces hc)

theorem body_indented (column : Nat) (line : Text) : body (indented column line) = body line := by
  rw [indented, body, List.dropWhile_append_of_pos fun c hc => isMargin_of_mem_spaces hc]
  exact List.dropWhile_idempotent ..

end Margin
end AmberTools
