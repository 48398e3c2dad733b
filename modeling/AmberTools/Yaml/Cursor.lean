import AmberTools.Text.Basic
import AmberTools.Yaml.Fault

/-!
# Positions in a YAML text

A cursor stands between two characters of a text. It knows what follows and how far it has come:
how many characters, how many lines, and the column in its line. Byte order marks take no column.
-/

namespace AmberTools
namespace Yaml

/-- Characters that end a line. -/
def isBreak (c : Char) : Bool :=
  c == '\n' || c == '\r' || c == '\x85' || c == '\u2028' || c == '\u2029'

/-- What can follow a word: a space, a tab, the end of a line or of the text. -/
def isGap : Option Char → Bool
  | none => true
  | some c => c == ' ' || c == '\t' || isBreak c

/-- What can follow on a line that is done: its end, the end of the text, or a space. -/
def isStop : Option Char → Bool
  | none => true
  | some c => c == ' ' || isBreak c

/-- The end of a line or of the text. -/
def isLineEnd : Option Char → Bool
  | none => true
  | some c => isBreak c

/-- A place in a text. -/
structure Cursor where
  rest : Text
  index : Nat := 0
  line : Nat := 0
  column : Nat := 0
  deriving DecidableEq, Repr

namespace Cursor

/-- The character at a distance from the cursor. -/
def peek (k : Cursor) (distance : Nat) : Option Char := k.rest[distance]?

/-- The character behind the cursor. -/
def here (k : Cursor) : Option Char := k.rest.head?

/-- Whether a given character follows. -/
def at? (k : Cursor) (c : Char) : Bool := k.here == some c

/-- The cursor one character on. A carriage return before a line feed does not end a line. -/
def next (k : Cursor) : Cursor :=
  match k.rest with
  | [] => k
  | c :: rest =>
    if isBreak c && !(c == '\r' && rest.head? == some '\n') then
      ⟨rest, k.index + 1, k.line + 1, 0⟩
    else if c == '\ufeff' then ⟨rest, k.index + 1, k.line, k.column⟩
    else ⟨rest, k.index + 1, k.line, k.column + 1⟩

/-- The cursor some characters on. -/
def advance (k : Cursor) : Nat → Cursor
  | 0 => k
  | n + 1 => k.next.advance n

/-- The characters on which a test holds, and the cursor behind them. -/
def span (k : Cursor) (p : Char → Bool) : Text × Cursor :=
  let run := k.rest.takeWhile p
  (run, k.advance run.length)

/-- The cursor behind the characters on which a test holds. -/
def skip (k : Cursor) (p : Char → Bool) : Cursor := (k.span p).2

/-- The cursor behind the spaces that follow. -/
def skipSpaces (k : Cursor) : Cursor := k.skip (· == ' ')

/-- A line break in the form in which it counts as text, and the cursor behind it: most breaks
count as line feeds. -/
def lineBreak? (k : Cursor) : Option (Char × Cursor) :=
  match k.rest with
  | '\r' :: '\n' :: _ => some ('\n', k.advance 2)
  | c :: _ =>
    if c == '\u2028' || c == '\u2029' then some (c, k.next)
    else if isBreak c then some ('\n', k.next)
    else none
  | [] => none

/-- The cursor behind the comment that follows, if one does. -/
def skipComment (k : Cursor) : Cursor :=
  if k.at? '#' then k.skip (!isBreak ·) else k

/-- Whether three hyphens or three points on their own follow, which end a document. -/
def atDocumentMark (k : Cursor) : Bool :=
  (k.rest.take 3 == ['-', '-', '-'] || k.rest.take 3 == ['.', '.', '.']) && isGap (k.peek 3)

/-- The cursor behind spaces, a comment and the end of the line. -/
def finishLine (k : Cursor) : Except Fault Cursor :=
  let k := k.skipSpaces.skipComment
  if isLineEnd k.here then .ok ((k.lineBreak?).elim k (·.2)) else .error .malformed

end Cursor
end Yaml
end AmberTools
