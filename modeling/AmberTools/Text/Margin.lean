import AmberTools.Text.Basic

/-!
# Margins

The margin of a line is its leading run of spaces and tabs. Its width is the column of the
first character after it, where a tab advances to the next multiple of the tab width.
-/

namespace AmberTools
namespace Margin

/-- The characters a margin consists of. -/
def isMargin (c : Char) : Bool := c == ' ' || c == '\t'

/-- The line without its margin. -/
def body (line : Text) : Text := line.dropWhile isMargin

/-- The column reached from a given column, for a positive tab width. -/
def widthFrom (tabWidth column : Nat) : Text → Nat
  | ' ' :: rest => widthFrom tabWidth (column + 1) rest
  | '\t' :: rest => widthFrom tabWidth (column + (tabWidth - column % tabWidth)) rest
  | _ => column

/-- The width of a line's margin, for a positive tab width. -/
def width (tabWidth : Nat) (line : Text) : Nat := widthFrom tabWidth 0 line

/-- The column reached from a given column, for any tab width: the distance to the next stop is
the tab width less the column's floored remainder. A tab has no next stop if the width is zero. -/
def signedWidthFrom? (tabWidth column : Int) : Text → Option Int
  | ' ' :: rest => signedWidthFrom? tabWidth (column + 1) rest
  | '\t' :: rest =>
    if tabWidth = 0 then none
    else signedWidthFrom? tabWidth (column + (tabWidth - Int.fmod column tabWidth)) rest
  | _ => some column

/-- The width of a line's margin, for any tab width. -/
def signedWidth? (tabWidth : Int) (line : Text) : Option Int := signedWidthFrom? tabWidth 0 line

/-- Spaces up to a column. There is no limit to the length of a text here, nor elsewhere: memory is
taken to suffice for every text. -/
def spaces (column : Nat) : Text := List.replicate column ' '

end Margin
end AmberTools
