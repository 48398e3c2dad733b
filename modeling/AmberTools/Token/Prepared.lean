import AmberTools.Text.Line
import AmberTools.Token.Lexer

/-!
# Prepared sources

Before a source is shown in colours it is brought into a plain form: a byte order mark at the
start is dropped, line breaks become line feeds, empty lines at both ends go, and the last line
is ended.
-/

namespace AmberTools
namespace Lexer

/-- The text without a byte order mark at its start. -/
def dropMark : Text → Text
  | '\ufeff' :: rest => rest
  | text => text

/-- The text in plain form. -/
def prepare (text : Text) : Text :=
  let feeds := fun c : Char => c == '\n'
  let lines := Text.dropRightWhile feeds ((Text.unifyBreaks (dropMark text)).dropWhile feeds)
  lines ++ ['\n']

/-- The tokens of a source in plain form. -/
def preparedTokens (text : Text) : List Token := tokens (prepare text)

end Lexer
end AmberTools
