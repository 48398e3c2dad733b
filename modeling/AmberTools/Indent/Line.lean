import AmberTools.Text.Blank
import AmberTools.Text.Word

/-!
# Source lines and indentation

A source line tells from its first word how the line after it is indented: a line that starts a
block pushes the next one in, every other line with something on it keeps the next one at its
own column. A line with a closing brace alone is told apart from other lines, since it ends a
block.
-/

namespace AmberTools
namespace Indent

/-- A source line by its effect on the lines around it. -/
inductive Role where
  | opener
  | closer
  | plain
  | blank
  deriving DecidableEq, Repr

/-- The words that start a block. -/
def openerWords : List Text :=
  ["fun".toList, "if".toList, "else".toList, "for".toList, "loop".toList]

/-- The brackets that move a line out by one level when it starts with one. -/
def closingBrackets : List Char := [')', ']', '}']

/-- A line that starts with an opening brace or with a whole opener word. -/
def startsBlock (line : Text) : Bool :=
  match Text.trimLeft line with
  | [] => false
  | c :: rest => c == '\x7b' || openerWords.contains ((c :: rest).takeWhile Text.isWord)

/-- What remains of a line is a comment up to its end; one line feed may follow. -/
def isLastComment (text : Text) : Bool :=
  match text with
  | '/' :: '/' :: comment =>
    let ending := comment.dropWhile (· != '\n')
    ending == [] || ending == ['\n']
  | _ => false

/-- A closing brace alone on its line, but for a comment. -/
def isDanglingCloser (line : Text) : Bool :=
  match Text.trimLeft line with
  | '\x7d' :: rest => Text.allBlank rest || isLastComment (Text.trimLeft rest)
  | _ => false

/-- The role of a line. -/
def Role.ofLine (line : Text) : Role :=
  if Text.allBlank line then .blank
  else if startsBlock line then .opener
  else if isDanglingCloser line then .closer
  else .plain

/-- A line that starts with a closing bracket. -/
def startsClosing (line : Text) : Bool :=
  match Text.firstSignificant? line with
  | some c => closingBrackets.contains c
  | none => false

end Indent
end AmberTools
