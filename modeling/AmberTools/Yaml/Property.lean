import AmberTools.Text.Utf8
import AmberTools.Text.Word
import AmberTools.Yaml.Cursor
import AmberTools.Yaml.Token

/-!
# Anchors, tags and directives

An anchor names a node and an alias refers to it. A tag names a node's type, in full or by a
handle that a directive explains. In tags, percent signs stand before the bytes of characters.
-/

namespace AmberTools
namespace Yaml

/-- The characters of names. -/
def isNameChar (c : Char) : Bool :=
  Text.isAsciiLetter c || Text.isAsciiDigit c || c == '-' || c == '_'

/-- The characters of tags. -/
def isTagChar (c : Char) : Bool :=
  isNameChar c || c == ';' || c == '/' || c == '?' || c == ':' || c == '@' || c == '&' ||
    c == '=' || c == '+' || c == '$' || c == ',' || c == '.' || c == '!' || c == '~' ||
    c == '*' || c == '\'' || c == '(' || c == ')' || c == '[' || c == ']'

/-- The value of a hexadecimal digit. -/
def hexDigit? (c : Char) : Option Nat :=
  if Text.isAsciiDigit c then some (c.toNat - '0'.toNat)
  else if 'a' ≤ c && c ≤ 'f' then some (c.toNat - 'a'.toNat + 10)
  else if 'A' ≤ c && c ≤ 'F' then some (c.toNat - 'A'.toNat + 10)
  else none

/-- The name behind the sign of an anchor or alias, and the cursor behind it. -/
def readAnchor (k : Cursor) : Except Fault (Text × Cursor) :=
  let (name, k) := k.next.span isNameChar
  let follows := isGap k.here || (k.here).any ['?', ':', ',', ']', '\x7d', '%', '@', '\x60'].contains
  if name.isEmpty || !follows then .error .malformed else .ok (name, k)

/-- The bytes written by percent signs and hexadecimal digits at the head of a text, and what
follows them. -/
def escapedBytes : Text → Option (List UInt8 × Text)
  | '%' :: high :: low :: rest => do
    let h ← hexDigit? high
    let l ← hexDigit? low
    let (bytes, rest) ← escapedBytes rest
    return (UInt8.ofNat (16 * h + l) :: bytes, rest)
  | '%' :: _ => none
  | text => some ([], text)

/-- The text of a tag at the head of a text, and the number of characters it is written with. -/
def tagText (fuel : Nat) (text : Text) : Except Fault (Text × Nat) :=
  match fuel, text with
  | 0, _ => .ok ([], 0)
  | _, [] => .ok ([], 0)
  | fuel + 1, c :: rest =>
    if c = '%' then
      match escapedBytes (c :: rest) with
      | none => .error .malformed
      | some (bytes, rest) =>
        match Utf8.decode bytes, tagText fuel rest with
        | .ok decoded, .ok (more, length) => .ok (decoded ++ more, 3 * bytes.length + length)
        | _, _ => .error .malformed
    else if isTagChar c then
      match tagText fuel rest with
      | .ok (more, length) => .ok (c :: more, length + 1)
      | .error fault => .error fault
    else .ok ([], 0)

/-- The text of a tag, which is not empty, and the cursor behind it. -/
def readTagText (k : Cursor) : Except Fault (Text × Cursor) :=
  match tagText k.rest.length k.rest with
  | .ok (text, length) => if length = 0 then .error .malformed else .ok (text, k.advance length)
  | .error fault => .error fault

/-- The handle of a tag: an exclamation mark, alone before a space or with a name and a second
mark. -/
def readHandle (k : Cursor) : Except Fault (Text × Cursor) :=
  if !k.at? '!' then .error .malformed
  else if k.peek 1 == some ' ' then .ok (['!'], k.next)
  else
    let (name, after) := k.next.span isNameChar
    if after.at? '!' then .ok ('!' :: name ++ ['!'], after.next) else .error .malformed

/-- A tag: in angle brackets, an exclamation mark alone, or a text behind a handle. -/
def readTag (k : Cursor) : Except Fault (Token × Cursor) := do
  let (token, k) ←
    if k.peek 1 == some '<' then do
      let (text, k) ← readTagText (k.advance 2)
      if k.at? '>' then .ok (Token.tag none text, k.next) else .error .malformed
    else if isGap (k.peek 1) then .ok (Token.tag none ['!'], k.next)
    else do
      let word := (k.next.rest).takeWhile fun c => !isStop (some c)
      let (handle, k) ← if word.contains '!' then readHandle k else .ok (['!'], k.next)
      let (text, k) ← readTagText k
      .ok (Token.tag (some handle) text, k)
  if isStop k.here then .ok (token, k) else .error .malformed

/-- A number of a version. -/
def readNumber (k : Cursor) : Except Fault (Nat × Cursor) :=
  let (digits, k) := k.span Text.isAsciiDigit
  if digits.isEmpty then .error .malformed
  else if mostDigits < digits.length then .error (.tooManyDigits digits.length)
  else .ok (digits.foldl (fun n c => 10 * n + (c.toNat - '0'.toNat)) 0, k)

/-- A version: two numbers with a point between them. -/
def readVersion (k : Cursor) : Except Fault (Directive × Cursor) := do
  let (major, k) ← readNumber k.skipSpaces
  if !k.at? '.' then throw .malformed
  let (minor, k) ← readNumber k.next
  if isStop k.here then return (.version major minor, k) else throw .malformed

/-- The explanation of a handle. -/
def readHandleMeaning (k : Cursor) : Except Fault (Directive × Cursor) := do
  let (handle, k) ← readHandle k.skipSpaces
  if !k.at? ' ' then throw .malformed
  let (start, k) ← readTagText k.skipSpaces
  if isStop k.here then return (.tag handle start, k) else throw .malformed

/-- A directive with the rest of its line. Directives of unknown names say nothing. -/
def readDirective (k : Cursor) : Except Fault (Token × Cursor) := do
  let (name, k) := k.next.span isNameChar
  if name.isEmpty || !isStop k.here then throw .malformed
  let (directive, k) ←
    if name = "YAML".toList then readVersion k
    else if name = "TAG".toList then readHandleMeaning k
    else .ok (Directive.other, k.skip (!isBreak ·))
  let k ← k.finishLine
  return (.directive directive, k)

end Yaml
end AmberTools
