import AmberTools.Compiler.Line
import AmberTools.Proofs.Text.Cuts
import AmberTools.Proofs.Text.Trim
import Mathlib.Algebra.Group.Nat.Defs

/-!
# Headers and locations as they are written

The compiler writes a header as `ERROR`, a space and a message, and a location as `at`, a space,
and file, line and column between colons. Both are recognised for what they are, whatever the
message and the file, as long as the message is trimmed and the file has no colon in it.

## Main results

* `Compiler.Line.number?_ofNat`: a written number is read back up to its last digit.
* `Compiler.Line.classify_header`, `Compiler.Line.classify_location`: the two forms.
-/

namespace AmberTools
namespace Compiler

/-- What the compiler writes in front of a message. -/
def headerStart : Text := "ERROR ".toList

/-- What the compiler writes in front of a place. -/
def locationStart : Text := "at ".toList

namespace Line

/-! ### Numbers -/

theorem isDigit_of_mem_ofNat {c : Char} {n : Nat} (h : c ∈ Text.ofNat n) : isDigit c = true := by
  have hdigit : c.isDigit = true := Nat.isDigit_of_mem_toDigits (by omega) (by omega) h
  simpa [Char.isDigit, isDigit, Char.le_def] using hdigit

theorem digitsValue_ofNat (n : Nat) : digitsValue (Text.ofNat n) = n :=
  Nat.ofDigitChars_ten_toDigits

/-- A number below `10 ^ 18` is read back in front of anything but a digit. -/
theorem number?_ofNat {n : Nat} (hn : n < 10 ^ 18) {rest : Text}
    (hrest : ∀ c ∈ rest.head?, isDigit c = false) :
    number? (Text.ofNat n ++ rest) = some (n, rest) := by
  have hdigits : ∀ c ∈ Text.ofNat n, isDigit c = true := fun c hc => isDigit_of_mem_ofNat hc
  have hlength : 1 ≤ (Text.ofNat n).length ∧ (Text.ofNat n).length ≤ 18 :=
    ⟨Nat.length_toDigits_pos, (Nat.length_toDigits_le_iff (by omega) (by omega)).mpr hn⟩
  rw [number?, Text.takeWhile_append hdigits hrest, Text.dropWhile_append hdigits hrest]
  simp only [hlength, and_self, if_true, digitsValue_ofNat]

/-! ### Headers -/

/-- A line in one piece is all that stands before a line feed at its end. -/
theorem beforeFinalFeed?_eq_some {text : Text} (h : '\n' ∉ text) :
    beforeFinalFeed? text = some text := by
  have hrun : ∀ c ∈ text, (c != '\n') = true := Text.bne_of_notMem h
  rw [beforeFinalFeed?, List.takeWhile_eq_self_iff.mpr hrun]
  simp only [List.dropWhile_eq_nil_iff.mpr hrun]

theorem trimLeft_of_head {c : Char} (h : Text.isBlank c = false) (rest : Text) :
    Text.trimLeft (c :: rest) = c :: rest := by
  simp [Text.trimLeft, h]

/-- A header gives its message if this is trimmed and in one line. -/
theorem classify_header {message : Text} (htrim : Text.trim message = message)
    (hline : '\n' ∉ message) : classify (headerStart ++ message) = .header message := by
  obtain ⟨hleft, hright⟩ := Text.trim_eq_self_iff.mp htrim
  have hstart : Text.trimLeft (headerStart ++ message) = "ERROR".toList ++ ' ' :: message :=
    trimLeft_of_head (by decide) _
  have hheader : header? (headerStart ++ message) = some message := by
    rw [header?, hstart, Text.dropStart?_append]
    simp [show Text.isBlank ' ' = true by decide, hleft, beforeFinalFeed?_eq_some hline, hright]
  rw [classify, hheader]

/-! ### Locations -/

theorem trimLeft_locationStart (rest : Text) :
    Text.trimLeft (locationStart ++ rest) = locationStart ++ rest :=
  trimLeft_of_head (by decide) _

/-- A location is no header. -/
theorem header?_locationStart (rest : Text) : header? (locationStart ++ rest) = none := by
  rw [header?, trimLeft_locationStart]
  rfl

section Location

variable {file : Text} {line column : Nat} (hfile : file ≠ []) (hcolon : ':' ∉ file)
  (hline : line < 10 ^ 18) (hcolumn : column < 10 ^ 18)
include hfile hcolon hline hcolumn

/-- File, line and column are read back from between the colons. -/
theorem location?_written :
    location? (locationStart ++ (file ++ ':' :: (Text.ofNat line ++ ':' :: Text.ofNat column))) =
      some (file, line, column) := by
  have hempty : file.isEmpty = false := by simpa using hfile
  have hnumber : number? (Text.ofNat line ++ ':' :: Text.ofNat column) =
      some (line, ':' :: Text.ofNat column) :=
    number?_ofNat hline (by simp [isDigit])
  have hsep : Text.dropStart? [':'] (':' :: Text.ofNat column) = some (Text.ofNat column) :=
    Text.dropStart?_append [':'] _
  have hend : ∀ c ∈ List.head? ([] : Text), isDigit c = false := by simp
  have hlast : number? (Text.ofNat column) = some (column, []) := by
    simpa using number?_ofNat hcolumn hend
  rw [location?, trimLeft_locationStart, locationStart, Text.dropStart?_append]
  simp only [Option.bind_eq_bind, Option.bind_some, Text.cutAt?_append hcolon, hempty,
    Bool.false_eq_true, if_false, hnumber, hsep, hlast, Text.allBlank, List.all_nil, if_true]

/-- A location gives file, line and column. -/
theorem classify_location (pos : 0 < line ∧ 0 < column) :
    classify (locationStart ++ (file ++ ':' :: (Text.ofNat line ++ ':' :: Text.ofNat column))) =
      .location file line column pos := by
  rw [classify, header?_locationStart]
  simp only [location?_written hfile hcolon hline hcolumn, pos, and_self, dite_true]

end Location

end Line
end Compiler
end AmberTools
