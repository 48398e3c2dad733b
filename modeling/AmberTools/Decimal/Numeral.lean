import AmberTools.Decimal.Binary64
import AmberTools.Text.Blank
import AmberTools.Text.Case
import AmberTools.Text.Digit

/-!
# Numerals

Integers and decimals are read from texts. Blank characters around a numeral are ignored, the
information separators apart, digits of every script count, and an underscore may stand between
two digits of an integer.
-/

namespace AmberTools
namespace Numeral

/-- A character that may surround a numeral: a blank one, but no information separator. -/
def isPadding (c : Char) : Bool := Text.isBlank c && !(0x1c ≤ c.toNat && c.toNat ≤ 0x1f)

/-- A text without what may surround a numeral. -/
def trim (text : Text) : Text := Text.dropRightWhile isPadding (text.dropWhile isPadding)

/-- The ASCII form of a text: digits of every script become ASCII digits. -/
def plainDigits (text : Text) : Text :=
  text.map fun c => ((Text.digitValue? c).map fun d => Char.ofNat (0x30 + d)).getD c

/-- The value of a digit or letter as a digit of some base. -/
def baseDigit? (c : Char) : Option Nat :=
  match Text.digitValue? c with
  | some d => some d
  | none =>
    let l := Text.lowerAscii c
    if 'a' ≤ l && l ≤ 'z' then some (l.toNat - 'a'.toNat + 10) else none

/-- A sign and what follows it; a numeral without a sign is positive. -/
def sign : Text → Bool × Text
  | '-' :: rest => (true, rest)
  | '+' :: rest => (false, rest)
  | text => (false, text)

/-- The value of digits of a base behind a given value. An underscore must have a digit on both
sides. -/
def digitsValue? (base : Nat) (value : Nat) : (text : Text) → Option Nat
  | [] => some value
  | '_' :: c :: rest => do
    let d ← baseDigit? c
    if d < base then digitsValue? base (value * base + d) rest else none
  | c :: rest => do
    let d ← baseDigit? c
    if d < base then digitsValue? base (value * base + d) rest else none

/-- The letter that marks a base in front of its digits. -/
def baseMark? (base : Nat) : Option Char :=
  if base = 2 then some 'b' else if base = 8 then some 'o' else if base = 16 then some 'x'
  else none

/-- The digits without the mark of the base, behind which an underscore may stand. -/
def dropMark (base : Nat) : Text → Text
  | '0' :: c :: rest =>
    if baseMark? base = some (Text.lowerAscii c) then
      match rest with
      | '_' :: more => more
      | rest => rest
    else '0' :: c :: rest
  | text => text

/-- The integer a text is a numeral of. -/
def readInt? (base : Nat) (text : Text) : Option Int :=
  let (negative, rest) := sign (trim text)
  match dropMark base rest with
  | [] => none
  | '_' :: _ => none
  | digits => (digitsValue? base 0 digits).map fun n => if negative then -(n : Int) else n

/-- The number of decimal digits in a text. -/
def digitCount (text : Text) : Nat := (text.filter Text.isDigit).length

/-- The number of decimal digits that a text begins with, behind padding and a sign. -/
def leadingDigits (text : Text) : Nat := ((sign (trim text)).2.takeWhile Text.isDigit).length

/-- The value of ASCII digits. -/
def natOf (digits : Text) : Nat :=
  digits.foldl (fun n c => 10 * n + (c.toNat - '0'.toNat)) 0

/-- The exponent at the end of a decimal: nothing, or a letter `e` and a signed integer. -/
def exponent? : Text → Option Int
  | [] => some 0
  | c :: rest =>
    if c = 'e' then
      let (negative, digits) := sign rest
      if digits.isEmpty || !digits.all Text.isAsciiDigit then none
      else some (if negative then -(natOf digits : Int) else natOf digits)
    else none

/-- The number nearest to a decimal without a sign, in lower-case ASCII. -/
def magnitude? (negative : Bool) (text : Text) : Option Binary64 :=
  let word := String.ofList text
  if word = "inf" ∨ word = "infinity" then some (.infinite negative)
  else if word = "nan" then some .notANumber
  else
    let whole := text.takeWhile Text.isAsciiDigit
    let rest := text.dropWhile Text.isAsciiDigit
    let (places, rest) := match rest with
      | '.' :: rest => (rest.takeWhile Text.isAsciiDigit, rest.dropWhile Text.isAsciiDigit)
      | rest => ([], rest)
    if whole.isEmpty && places.isEmpty then none
    else (exponent? rest).map fun e =>
      Binary64.ofDecimal negative (natOf (whole ++ places)) (e - places.length)

/-- The number nearest to the decimal a text is a numeral of. -/
def readDecimal? (text : Text) : Option Binary64 :=
  let (negative, rest) := sign ((trim (plainDigits text)).map Text.lowerAscii)
  magnitude? negative rest

end Numeral
end AmberTools
