import AmberTools.Decimal.Numeral
import AmberTools.Text.Case
import AmberTools.Value.Basic
import AmberTools.Yaml.Tag

/-!
# Values of scalars

A scalar's text is read by its tag. Integers and numbers may hold underscores and may be written
in base sixty, bytes are written in base 64. A half of a surrogate pair is part of no numeral, word,
date or byte.
-/

namespace AmberTools
namespace Yaml
namespace Scalar

/-- An integer of a base. Too many decimal digits are refused before what follows them is read. -/
def readInteger (base : Nat) (text : WideText) : Except Fault Int :=
  let digits := Numeral.leadingDigits (WideText.start text)
  if base = 10 ∧ mostDigits < digits then .error (.tooManyDigits digits)
  else match (WideText.narrow? text).bind (Numeral.readInt? base) with
    | none => .error (.notInteger base text)
    | some n => .ok n

/-- The integer that digits of base sixty make. -/
def sixtieths (digits : List Int) : Int := digits.foldl (fun n d => 60 * n + d) 0

/-- The texts of the digits of a number in base sixty, which stand between colons. -/
def sixtiethTexts (text : WideText) : List WideText := Text.splitOn (CodePoint.char ':') text

/-- An integer without sign. -/
def magnitude (text : WideText) : Except Fault Int :=
  match text with
  | [] => .error .emptyNumber
  | [.char '0'] => .ok 0
  | .char '0' :: .char 'b' :: rest => readInteger 2 rest
  | .char '0' :: .char 'x' :: rest => readInteger 16 rest
  | .char '0' :: _ => readInteger 8 text
  | _ =>
    if text.contains (.char ':') then ((sixtiethTexts text).mapM (readInteger 10)).map sixtieths
    else readInteger 10 text

/-- A text without underscores. -/
def dropUnderscores (text : WideText) : WideText := text.filter (· != .char '_')

/-- An integer. -/
def toInt (text : WideText) : Except Fault Int :=
  match dropUnderscores text with
  | [] => .error .emptyNumber
  | .char '-' :: rest => (magnitude rest).map (- ·)
  | .char '+' :: rest => magnitude rest
  | rest => magnitude rest

/-- A number in decimal notation. -/
def readDecimal (text : WideText) : Except Fault Binary64 :=
  match (WideText.narrow? text).bind Numeral.readDecimal? with
  | some x => .ok x
  | none => .error (.notNumber text)

/-- A sum of digits of base sixty with one more digit, which is multiplied by a power. The power
must not be above all numbers, whatever the digit. -/
def addSixtieth (sum : Binary64) (power : Int) (digit : Binary64) : Except Fault Binary64 :=
  match Binary64.ofInt power with
  | .infinite _ => .error .powerTooLarge
  | power => .ok (sum.add (digit.mul power))

/-- The number that digits of base sixty make, each multiplied by its power and the products
added from the last one on. -/
def sexagesimal (digits : List Binary64) : Except Fault Binary64 := do
  let (sum, _) ← digits.reverse.foldlM
    (fun (sum, power) digit => (addSixtieth sum power digit).map (·, power * 60))
    (Binary64.zero, (1 : Int))
  return sum

/-- A number without sign, in lower case. -/
def floatMagnitude (text : WideText) : Except Fault Binary64 :=
  if text = WideText.ofString ".inf" then .ok (.infinite false)
  else if text = WideText.ofString ".nan" then .ok .notANumber
  else if text.contains (.char ':') then (sixtiethTexts text).mapM readDecimal >>= sexagesimal
  else readDecimal text

/-- A number. -/
def toFloat (text : WideText) : Except Fault Binary64 :=
  match WideText.lower (dropUnderscores text) with
  | [] => .error .emptyNumber
  | .char '-' :: rest => (floatMagnitude rest).map Binary64.neg
  | .char '+' :: rest => floatMagnitude rest
  | rest => floatMagnitude rest

/-- The words for truth and falsehood. -/
def truthWords : List (String × Bool) :=
  [("yes", true), ("no", false), ("true", true), ("false", false), ("on", true), ("off", false)]

/-- A truth value, in any case. -/
def toBool (text : WideText) : Except Fault Bool :=
  let word := WideText.lower text
  match truthWords.find? fun entry => WideText.ofString entry.1 == word with
  | some entry => .ok entry.2
  | none => .error (.notBoolean word)

/-- A date or moment. One line feed at the end is overlooked. -/
def toTimestamp (text : Text) : Except Fault Value :=
  let body := if text.getLast? = some '\n' then text.dropLast else text
  match Timestamp.parse? body with
  | none => .error .notTimestamp
  | some t => t.toValue.mapError .calendar

/-- The value of a base-64 digit. -/
def base64Digit? (c : Char) : Option Nat :=
  if 'A' ≤ c && c ≤ 'Z' then some (c.toNat - 'A'.toNat)
  else if 'a' ≤ c && c ≤ 'z' then some (c.toNat - 'a'.toNat + 26)
  else if Text.isAsciiDigit c then some (c.toNat - '0'.toNat + 52)
  else if c = '+' then some 62
  else if c = '/' then some 63
  else none

/-- The bytes of base-64 digits, where `count` digits of the present group of four have been read
with the value `bits`, and `pads` padding characters after them. Other characters are passed
over; padding that completes a group ends the bytes, and an incomplete group is at fault. -/
def base64 (count bits pads : Nat) : Text → Option (List UInt8)
  | [] => if count = 0 then some [] else none
  | c :: rest =>
    if c = '=' then
      if 2 ≤ count then
        if 4 ≤ count + pads + 1 then some [] else base64 count bits (pads + 1) rest
      else base64 count bits pads rest
    else match base64Digit? c with
      | none => base64 count bits pads rest
      | some d =>
        let bits := bits * 64 + d
        match count with
        | 0 => base64 1 d 0 rest
        | 1 => (base64 2 (bits % 16) 0 rest).map (UInt8.ofNat (bits / 16) :: ·)
        | 2 => (base64 3 (bits % 4) 0 rest).map (UInt8.ofNat (bits / 4) :: ·)
        | _ => (base64 0 0 0 rest).map (UInt8.ofNat bits :: ·)

/-- Bytes in base 64, in ASCII. -/
def toBytes (text : Text) : Except Fault (List UInt8) :=
  if text.any fun c => 0x80 ≤ c.toNat then .error .malformed
  else match base64 0 0 0 text with
    | some bytes => .ok bytes
    | none => .error .malformed

/-- What a reader of texts makes of a wide text, or the given fault if it is none. -/
def narrowly {α : Type} (text : WideText) (fault : Fault) (read : Text → Except Fault α) :
    Except Fault α :=
  match WideText.narrow? text with
  | some text => read text
  | none => .error fault

/-- The value of a scalar; tags of collections and unknown tags have none. -/
def toValue (tag : Tag) (text : WideText) : Except Fault Value :=
  match tag with
  | .null => .ok .null
  | .bool => (toBool text).map .bool
  | .int => (toInt text).map .int
  | .float => (toFloat text).map .float
  | .binary => (narrowly text .malformed toBytes).map .bytes
  | .timestamp => narrowly text .notTimestamp toTimestamp
  | .str => .ok (.text text)
  | _ => .error .malformed

end Scalar
end Yaml
end AmberTools
