import AmberTools.Yaml.Timestamp

/-!
# Tags

The tag of a node says what type of value it has. A scalar without a tag gets one from its text
if it is written plainly, and is a text otherwise.
-/

namespace AmberTools
namespace Yaml

/-- The types of values; every other tag has no type. -/
inductive Tag where
  | null
  | bool
  | int
  | float
  | binary
  | timestamp
  | omap
  | pairs
  | set
  | str
  | seq
  | map
  /-- The key whose value is merged into its mapping. -/
  | merge
  /-- The key whose value stands for its mapping. -/
  | value
  | unknown
  deriving DecidableEq, Repr

namespace Tag

/-- The beginning of the tags of known types. -/
def start : Text := "tag:yaml.org,2002:".toList

/-- The known types by the rest of their tags. -/
def names : List (String × Tag) :=
  [("null", null), ("bool", bool), ("int", int), ("float", float), ("binary", binary),
   ("timestamp", timestamp), ("omap", omap), ("pairs", pairs), ("set", set), ("str", str),
   ("seq", seq), ("map", map), ("merge", merge), ("value", value)]

/-- The type of a tag given in full. -/
def ofText (text : Text) : Tag :=
  match Text.dropStart? start text with
  | none => unknown
  | some rest =>
    match names.find? fun entry => entry.1.toList == rest with
    | some entry => entry.2
    | none => unknown

/-- Digits of a base and underscores. -/
def isDigits (base : Nat) (text : Text) : Bool :=
  text.all fun c => c == '_' ||
    (if base == 16 then Text.isAsciiDigit c || ('a' ≤ c && c ≤ 'f') || ('A' ≤ c && c ≤ 'F')
      else Text.isAsciiDigit c && c.toNat < '0'.toNat + base)

/-- The text without a sign at its start. -/
def unsigned : Text → Text
  | '+' :: rest => rest
  | '-' :: rest => rest
  | text => text

/-- One or two digits below sixty. -/
def isSixtieth (part : Text) : Bool :=
  match part with
  | [c] => Text.isAsciiDigit c
  | [c, d] => ('0' ≤ c && c ≤ '5') && Text.isAsciiDigit d
  | _ => false

/-- A number in base sixty: decimal digits and, behind colons, numbers below sixty. -/
def isSexagesimal (text : Text) : Bool :=
  match Text.splitOn ':' text with
  | (c :: rest) :: part :: parts =>
    Text.isAsciiDigit c && isDigits 10 rest && (part :: parts).all isSixtieth
  | _ => false

/-- The texts of integers: binary, octal, decimal, hexadecimal, or in base sixty. -/
def isInt (text : Text) : Bool :=
  match unsigned text with
  | ['0'] => true
  | '0' :: 'b' :: c :: rest => isDigits 2 (c :: rest)
  | '0' :: 'x' :: c :: rest => isDigits 16 (c :: rest)
  | '0' :: rest => isDigits 8 rest
  | c :: rest => ('1' ≤ c && c ≤ '9') && (isDigits 10 rest || isSexagesimal (c :: rest))
  | [] => false

/-- The exponent of a number, with a sign, or nothing. -/
def isExponent : Text → Bool
  | [] => true
  | c :: sign :: d :: rest =>
    (c == 'e' || c == 'E') && (sign == '+' || sign == '-') && (d :: rest).all Text.isAsciiDigit
  | _ => false

/-- Decimal digits and underscores, of which the first is a digit. -/
def isWhole : Text → Bool
  | c :: rest => Text.isAsciiDigit c && isDigits 10 rest
  | [] => false

/-- A digit or an underscore. -/
def isPlace (c : Char) : Bool := Text.isAsciiDigit c || c == '_'

/-- The texts of numbers with a point. -/
def isFloat (text : Text) : Bool :=
  let body := unsigned text
  let word := String.ofList body
  if [".inf", ".Inf", ".INF"].contains word then true
  else if [".nan", ".NaN", ".NAN"].contains (String.ofList text) then true
  else match text with
    | '.' :: c :: rest => Text.isAsciiDigit c && isExponent (rest.dropWhile isPlace)
    | _ =>
      match Text.cutAt? '.' body with
      | none => false
      | some (whole, rest) =>
        (isWhole whole && isExponent (rest.dropWhile isPlace)) ||
          (isSexagesimal whole && rest.all isPlace)

/-- The words for truth values. -/
def boolWords : List String :=
  ["yes", "Yes", "YES", "no", "No", "NO", "true", "True", "TRUE", "false", "False", "FALSE",
   "on", "On", "ON", "off", "Off", "OFF"]

/-- The type of a plain scalar. One line feed at the end of the text is overlooked. -/
def ofPlain (text : Text) : Tag :=
  let body := if text.getLast? = some '\n' then text.dropLast else text
  let word := String.ofList body
  if text.isEmpty then null
  else if body.isEmpty then str
  else if boolWords.contains word then bool
  else if isFloat body then float
  else if isInt body then int
  else if word = "<<" then merge
  else if ["~", "null", "Null", "NULL"].contains word then null
  else if Timestamp.isImplicit body then timestamp
  else if word = "=" then value
  else if ["!", "&", "*"].contains word then unknown
  else str

/-- The type of a plain scalar with a wide text, where halves of surrogate pairs make it a text. -/
def ofContent (text : WideText) : Tag := ((WideText.narrow? text).map ofPlain).getD str

end Tag
end Yaml
end AmberTools
