import AmberTools.Text.Basic

/-!
# Tokens of Amber

A source text is a sequence of tokens. Each has a kind and a value, the piece of the text it
stands for.
-/

namespace AmberTools

/-- The kinds of tokens. -/
inductive TokenKind where
  | whitespace
  | error
  | keyword
  | keywordConstant
  | keywordDeclaration
  | keywordType
  | plainName
  | nameBuiltin
  | nameFunction
  | stringDouble
  | stringBacktick
  | stringEscape
  | stringInterpol
  | numberInteger
  | numberFloat
  | operator
  | punctuation
  | commentSingle
  deriving DecidableEq, Repr

/-- A piece of a source text with its kind. -/
structure Token where
  kind : TokenKind
  value : Text
  deriving DecidableEq, Repr

namespace TokenKind

/-- The full name of a kind, from the general to the particular. -/
def name : TokenKind → String
  | whitespace => "Token.Text.Whitespace"
  | error => "Token.Error"
  | keyword => "Token.Keyword"
  | keywordConstant => "Token.Keyword.Constant"
  | keywordDeclaration => "Token.Keyword.Declaration"
  | keywordType => "Token.Keyword.Type"
  | plainName => "Token.Name"
  | nameBuiltin => "Token.Name.Builtin"
  | nameFunction => "Token.Name.Function"
  | stringDouble => "Token.Literal.String.Double"
  | stringBacktick => "Token.Literal.String.Backtick"
  | stringEscape => "Token.Literal.String.Escape"
  | stringInterpol => "Token.Literal.String.Interpol"
  | numberInteger => "Token.Literal.Number.Integer"
  | numberFloat => "Token.Literal.Number.Float"
  | operator => "Token.Operator"
  | punctuation => "Token.Punctuation"
  | commentSingle => "Token.Comment.Single"

end TokenKind

namespace Token

/-- The text that tokens stand for. -/
def text (tokens : List Token) : Text := tokens.flatMap (·.value)

/-- Each token with its position, counted from a first one. -/
def withPositions (first : Nat) : List Token → List (Nat × Token)
  | [] => []
  | t :: ts => (first, t) :: withPositions (first + t.value.length) ts

end Token
end AmberTools
