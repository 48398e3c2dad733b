import AmberTools.Text.Basic

/-!
# Colour sequences

Terminals take their colours from sequences of an escape character, a bracket, digits and
semicolons, and a final `m`. Removing them leaves what a reader sees. A sequence that breaks
off before its `m` is ordinary text.
-/

namespace AmberTools
namespace Sgr

/-- The escape character. -/
def escape : Char := '\x1b'

/-- The characters that may stand between the bracket and the final letter. -/
def isParameter (c : Char) : Bool := ('0' ≤ c && c ≤ '9') || c == ';'

/-- What follows the sequence with which a text starts, if it starts with one. -/
def afterSequence? : Text → Option Text
  | '\x1b' :: '[' :: rest =>
    match rest.dropWhile isParameter with
    | 'm' :: rest => some rest
    | _ => none
  | _ => none

/-- A sequence is never empty, so removing one shortens the text. -/
theorem length_lt_of_afterSequence? {text rest : Text}
    (h : afterSequence? text = some rest) : rest.length < text.length := by
  unfold afterSequence? at h
  split at h
  · rename_i tail
    split at h
    · rename_i tail' hdrop
      have hle := (List.dropWhile_sublist (l := tail) isParameter).length_le
      simp only [Option.some.injEq] at h
      subst h
      simp only [hdrop, List.length_cons] at hle
      simp only [List.length_cons]
      omega
    · contradiction
  · contradiction

/-- The text without its colour sequences, found from left to right. -/
def strip (text : Text) : Text :=
  match text with
  | [] => []
  | c :: rest =>
    match _h : afterSequence? (c :: rest) with
    | some rest' => strip rest'
    | none => c :: strip rest
termination_by text.length
decreasing_by
  · exact length_lt_of_afterSequence? _h
  · simp

end Sgr
end AmberTools
