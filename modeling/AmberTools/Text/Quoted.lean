import AmberTools.Text.CodePoint
import AmberTools.Text.Printable

/-!
# Quoted texts

A quoted text stands between apostrophes, or between double quotes if it holds an apostrophe
and no double quote. Inside, the backslash, the chosen quote and everything that is not
printable is escaped: line feed, carriage return and tab by a letter, the rest by two, four or
eight hexadecimal digits. A half of a surrogate pair is never printable, so a quoted text has
none.
-/

namespace AmberTools
namespace Quoted

/-- The quote that needs the fewest escapes, an apostrophe in doubt. -/
def quoteFor (text : WideText) : Char :=
  if text.contains (.char '\'') && !text.contains (.char '"') then '"' else '\''

/-- The hexadecimal digits of a number, padded with zeros. -/
def hex (digits n : Nat) : Text :=
  let written := Nat.toDigits 16 n
  List.replicate (digits - written.length) '0' ++ written

/-- The shortest numeric escape of a code point. -/
def numericEscape (n : Nat) : Text :=
  if n < 0x100 then '\\' :: 'x' :: hex 2 n
  else if n < 0x10000 then '\\' :: 'u' :: hex 4 n
  else '\\' :: 'U' :: hex 8 n

/-- A character as it stands between quotes; the test says what needs no escape. -/
def encodeChar (plain : Char → Bool) (quote c : Char) : Text :=
  if c = quote || c = '\\' then ['\\', c]
  else if c = '\n' then ['\\', 'n']
  else if c = '\r' then ['\\', 'r']
  else if c = '\t' then ['\\', 't']
  else if plain c then [c]
  else numericEscape c.toNat

/-- A code point as it stands between quotes. -/
def encodePoint (plain : Char → Bool) (quote : Char) : CodePoint → Text
  | .char c => encodeChar plain quote c
  | .half index => numericEscape (CodePoint.half index).number

/-- The text between quotes; the test says what needs no escape. -/
def encodeWith (plain : Char → Bool) (text : WideText) : Text :=
  let quote := quoteFor text
  quote :: (text.flatMap (encodePoint plain quote)) ++ [quote]

/-- The wide text between quotes, printable characters as they are. -/
def encodeWide (text : WideText) : Text := encodeWith Text.isPrintable text

/-- The text between quotes, printable characters as they are. -/
def encode (text : Text) : Text := encodeWide text.wide

/-- The text between quotes in printable ASCII alone. -/
def encodeAscii (text : Text) : Text :=
  encodeWith (fun c => c.toNat < 0x80 && Text.isPrintable c) text.wide

/-- A byte as it stands between quotes. -/
def encodeByte (quote : Char) (byte : UInt8) : Text :=
  encodeChar (fun c => c.toNat < 0x7f && 0x20 ≤ c.toNat) quote (Char.ofNat byte.toNat)

/-- Bytes between quotes, each shown as the ASCII character it encodes, marked by a `b`. -/
def encodeBytes (bytes : List UInt8) : Text :=
  let quote := quoteFor (bytes.map fun b => .char (Char.ofNat b.toNat))
  'b' :: quote :: (bytes.flatMap (encodeByte quote)) ++ [quote]

end Quoted
end AmberTools
