import AmberTools.Text.Blank

/-!
# Code points

An escape in a text may name any code point, also half of a surrogate pair, which is no character.
A wide text is a sequence of code points, so it holds every text and those halves besides. Where
a wide text has to be shown in characters alone, a half is written as an escape.
-/

namespace AmberTools

/-- A character, or a half of a surrogate pair by its place among the halves. -/
inductive CodePoint where
  | char (c : Char)
  | half (index : Fin 0x800)
  deriving DecidableEq, Repr

namespace CodePoint

/-- The number of the first half. -/
def firstHalf : Nat := 0xd800

/-- The number of a code point. -/
def number : CodePoint → Nat
  | char c => c.toNat
  | half index => firstHalf + index

/-- The code point of a number, if it is one. -/
def ofNumber? (n : Nat) : Option CodePoint :=
  if h : firstHalf ≤ n ∧ n < firstHalf + 0x800 then
    some (half ⟨n - firstHalf, by omega⟩)
  else if n.isValidChar then some (char (Char.ofNat n))
  else none

/-- The character a code point is. -/
def char? : CodePoint → Option Char
  | char c => some c
  | half _ => none

/-- Whether a test holds on a code point; on a half none does. -/
def satisfies (p : Char → Bool) (point : CodePoint) : Bool := point.char?.any p

end CodePoint

/-- A text in which halves of surrogate pairs may stand alone. -/
abbrev WideText := List CodePoint

/-- A text as a wide text. -/
def Text.wide (text : Text) : WideText := text.map .char

namespace WideText

/-- The wide text of a string. -/
def ofString (s : String) : WideText := Text.wide s.toList

/-- The text a wide text is, if there is no half in it. -/
def narrow? (text : WideText) : Option Text := text.mapM CodePoint.char?

/-- A wide text of blank characters only, the empty one included. -/
def allBlank (text : WideText) : Bool := text.all (CodePoint.satisfies Text.isBlank)

/-- The characters in front of the first half. -/
def start (text : WideText) : Text :=
  (text.takeWhile (CodePoint.satisfies fun _ => true)).filterMap CodePoint.char?

/-- Lexicographic order by number. -/
def le : WideText → WideText → Bool
  | [], _ => true
  | _ :: _, [] => false
  | a :: s, b :: t => a.number < b.number || (a = b && le s t)

/-- The pieces with a separator between neighbours. -/
def joinWith (sep : WideText) (pieces : List WideText) : WideText :=
  (pieces.intersperse sep).flatten

/-- A code point in characters: a half as a backslash, a letter and its number. -/
def showPoint : CodePoint → Text
  | .char c => [c]
  | .half index => '\\' :: 'u' :: Nat.toDigits 16 (CodePoint.firstHalf + index)

/-- The text in characters. -/
def shown (text : WideText) : Text := text.flatMap showPoint

end WideText
end AmberTools
