import AmberTools.Diagnostic.Basic

/-!
# Reports

A report lists diagnostics in their order, either as text, one record a line with further
message lines indented by two spaces, or as a JSON array of objects.
-/

namespace AmberTools
namespace Diagnostic

/-- The diagnostics of several groups in order. -/
def collect (groups : List (List Diagnostic)) : List Diagnostic := groups.flatten

/-- Whether some diagnostic is an error. -/
def anyError (ds : List Diagnostic) : Bool := ds.any isError

/-- One record of a text report: place, severity and message between colons, every further line
of the message on a line of its own behind two spaces. -/
def format (d : Diagnostic) : Text :=
  let message := Text.splitOn '\n' d.message
  d.location ++ ": ".toList ++ d.severity ++ ": ".toList ++ message.headD [] ++
    message.tail.flatMap fun line => '\n' :: ' ' :: ' ' :: line

/-- A text report: each record with a line feed. -/
def textReport (ds : List Diagnostic) : Text := ds.flatMap fun d => d.format ++ ['\n']

/-- Four hexadecimal digits of a number below `0x10000`. -/
private def unitDigits (n : Nat) : Text :=
  let digits := Nat.toDigits 16 n
  List.replicate (4 - digits.length) '0' ++ digits

/-- A character inside a JSON string in ASCII: characters above `0xffff` become two escapes. -/
def jsonChar (c : Char) : Text :=
  let n := c.toNat
  if c = '"' then ['\\', '"']
  else if c = '\\' then ['\\', '\\']
  else if c = '\n' then ['\\', 'n']
  else if c = '\r' then ['\\', 'r']
  else if c = '\t' then ['\\', 't']
  else if n = 0x08 then ['\\', 'b']
  else if n = 0x0c then ['\\', 'f']
  else if 0x20 ≤ n && n < 0x7f then [c]
  else if n < 0x10000 then '\\' :: 'u' :: unitDigits n
  else '\\' :: 'u' :: unitDigits (0xd800 + (n - 0x10000) / 0x400) ++
    '\\' :: 'u' :: unitDigits (0xdc00 + (n - 0x10000) % 0x400)

/-- A JSON string in ASCII. -/
def jsonString (text : Text) : Text := '"' :: text.flatMap jsonChar ++ ['"']

/-- The entries of a diagnostic's JSON object in order, each value written out. -/
def jsonFields (d : Diagnostic) : List (Text × Text) :=
  [("severity".toList, jsonString d.severity),
   ("message".toList, jsonString d.message),
   ("file".toList, (d.file.map jsonString).getD "null".toList),
   ("line".toList, Text.ofNat d.line),
   ("column".toList, Text.ofNat d.column)]

/-- A diagnostic's JSON object as an element of an indented array. -/
def jsonObject (d : Diagnostic) : Text :=
  let fields := d.jsonFields.map fun f => "    ".toList ++ jsonString f.1 ++ ": ".toList ++ f.2
  "  \x7b\n".toList ++ Text.joinWith ",\n".toList fields ++ "\n  \x7d".toList

/-- A JSON report: an array indented by two spaces, with a line feed at its end. -/
def jsonReport : List Diagnostic → Text
  | [] => "[]\n".toList
  | ds => "[\n".toList ++ Text.joinWith ",\n".toList (ds.map jsonObject) ++ "\n]\n".toList

end Diagnostic
end AmberTools
