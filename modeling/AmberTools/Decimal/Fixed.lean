import AmberTools.Decimal.Binary64
import AmberTools.Text.Basic

/-!
# Fixed decimals

A number is written with a fixed number of decimal places by rounding its exact value, from a
tie to the even digit.
-/

namespace AmberTools
namespace Fixed

/-- A magnitude with a positive number of decimal places. -/
def magnitudeText (places units : Nat) : Text :=
  let digits := Text.ofNat (divNearestEven (units * Nat.pow 10 places) Binary64.one)
  let padded := List.replicate (places + 1 - digits.length) '0' ++ digits
  padded.take (padded.length - places) ++ '.' :: padded.drop (padded.length - places)

/-- A number with a positive number of decimal places. -/
def write (places : Nat) : Binary64 → Text
  | .finite negative units => (if negative then ['-'] else []) ++ magnitudeText places units
  | .infinite negative => (if negative then ['-'] else []) ++ "inf".toList
  | .notANumber => "nan".toList

/-- A text moved to the right end of a column. -/
def padLeft (width : Nat) (text : Text) : Text :=
  List.replicate (width - text.length) ' ' ++ text

/-- A text moved to the left end of a column. -/
def padRight (width : Nat) (text : Text) : Text :=
  text ++ List.replicate (width - text.length) ' '

end Fixed
end AmberTools
