import AmberTools.Text.Basic

/-!
# Blank characters

Blank characters are those with a Unicode space property or a bidirectional class of separator:
the ASCII controls from tab to carriage return, the four information separators, the space, and
the spaces and line separators outside ASCII. A line is blank if all its characters are.
-/

namespace AmberTools
namespace Text

/-- Spaces, tabs, line breaks and separators, in ASCII and outside it. -/
def isBlank (c : Char) : Bool :=
  let n := c.toNat
  (0x09 ≤ n && n ≤ 0x0d) || (0x1c ≤ n && n ≤ 0x20) || n == 0x85 || n == 0xa0 || n == 0x1680 ||
    (0x2000 ≤ n && n ≤ 0x200a) || n == 0x2028 || n == 0x2029 || n == 0x202f || n == 0x205f ||
    n == 0x3000

/-- A text of blank characters only, the empty text included. -/
def allBlank (text : Text) : Bool := text.all isBlank

/-- The text from its first character that is not blank. -/
def trimLeft (text : Text) : Text := text.dropWhile isBlank

/-- The text up to its last character that is not blank. -/
def trimRight (text : Text) : Text := dropRightWhile isBlank text

/-- The text without blank characters at either end. -/
def trim (text : Text) : Text := trimRight (trimLeft text)

/-- The first character that is not blank. -/
def firstSignificant? (text : Text) : Option Char := (trimLeft text).head?

end Text
end AmberTools
