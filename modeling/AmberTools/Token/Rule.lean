import AmberTools.Text.Blank
import AmberTools.Text.Digit
import AmberTools.Token.Words

/-!
# Lexical rules

A rule recognises a piece at the head of a text. It may also look at the character in front,
which decides whether a word begins there. Each state of the lexer has its rules in order, and
some rules enter or leave a state.
-/

namespace AmberTools

/-- The states of the lexer: program text at the top level or inside a literal, and the two kinds
of literals. -/
inductive LexState where
  | root
  | string
  | command
  | interpolation
  deriving DecidableEq, Repr

/-- The rules of all states. -/
inductive LexRule where
  | whitespace
  | comment
  | openString
  | openCommand
  | declaration
  | words (table : WordTable)
  | float
  | integer
  | name
  | operator
  | punctuation
  | escape
  | openInterpolation
  | closeString
  | stringText
  | closeCommand
  | commandText
  | closeInterpolation
  deriving DecidableEq, Repr

namespace LexRule

/-- One token for a run that is not empty. -/
def run? (kind : TokenKind) (value : Text) : Option (List Token) :=
  if value.isEmpty then none else some [⟨kind, value⟩]

/-- One token for a given first character. -/
def single? (kind : TokenKind) (c : Char) : Text → Option (List Token)
  | d :: _ => if d = c then some [⟨kind, [c]⟩] else none
  | [] => none

/-- A comment: two slashes and all that follows on the line. -/
def comment? : Text → Option (List Token)
  | '/' :: '/' :: rest =>
    some [⟨.commentSingle, '/' :: '/' :: rest.takeWhile (· != '\n')⟩]
  | _ => none

/-- The name at the head of a text. -/
def name? : Text → Option Text
  | c :: rest => if Text.isNameStart c then some (c :: rest.takeWhile Text.isWord) else none
  | [] => none

/-- A function's declaration: `fun`, blank characters and the function's name. -/
def declaration? : Text → Option (List Token)
  | 'f' :: 'u' :: 'n' :: rest =>
    let gap := rest.takeWhile Text.isBlank
    if gap.isEmpty then none
    else (name? (rest.dropWhile Text.isBlank)).map fun name =>
      [⟨.keywordDeclaration, ['f', 'u', 'n']⟩, ⟨.whitespace, gap⟩, ⟨.nameFunction, name⟩]
  | _ => none

/-- A whole word of a table, with no word character on either side. -/
def words? (table : WordTable) (before : Option Char) (text : Text) : Option (List Token) :=
  let word := text.takeWhile Text.isWord
  if before.any Text.isWord then none
  else if table.words.contains word then some [⟨table.kind, word⟩]
  else none

/-- Decimal digits, a point and decimal digits. -/
def float? (text : Text) : Option (List Token) :=
  let whole := text.takeWhile Text.isDigit
  if whole.isEmpty then none
  else match text.dropWhile Text.isDigit with
    | '.' :: rest =>
      let places := rest.takeWhile Text.isDigit
      if places.isEmpty then none else some [⟨.numberFloat, whole ++ '.' :: places⟩]
    | _ => none

/-- The characters that are an operator together with an equals sign. -/
def isComposable (c : Char) : Bool :=
  c == '=' || c == '!' || c == '<' || c == '>' || c == '+' || c == '-' || c == '*' || c == '/' ||
    c == '%'

/-- The operators: two points with or without an equals sign, and single characters, most of
which also stand before an equals sign. -/
def operator? : Text → Option (List Token)
  | '.' :: '.' :: '=' :: _ => some [⟨.operator, ['.', '.', '=']⟩]
  | '.' :: '.' :: _ => some [⟨.operator, ['.', '.']⟩]
  | '?' :: _ => some [⟨.operator, ['?']⟩]
  | c :: '=' :: _ => if isComposable c then some [⟨.operator, [c, '=']⟩] else none
  | c :: _ => if isComposable c then some [⟨.operator, [c]⟩] else none
  | [] => none

/-- The punctuation characters. -/
def isPunctuation (c : Char) : Bool :=
  c == '\x7b' || c == '\x7d' || c == '(' || c == ')' || c == '[' || c == ']' || c == ',' ||
    c == ':' || c == ';' || c == '.'

/-- One punctuation character. -/
def punctuation? : Text → Option (List Token)
  | c :: _ => if isPunctuation c then some [⟨.punctuation, [c]⟩] else none
  | [] => none

/-- A backslash and any character but a line feed. -/
def escape? : Text → Option (List Token)
  | '\\' :: c :: _ => if c = '\n' then none else some [⟨.stringEscape, ['\\', c]⟩]
  | _ => none

/-- The characters of a literal's text, which end at its delimiter, a backslash or an opening
brace. -/
def isLiteralText (delimiter c : Char) : Bool := c != delimiter && c != '\\' && c != '\x7b'

/-- The tokens a rule recognises at the head of a text, behind a given character. -/
def match? (rule : LexRule) (before : Option Char) (text : Text) : Option (List Token) :=
  match rule with
  | whitespace => run? .whitespace (text.takeWhile Text.isBlank)
  | comment => comment? text
  | openString => single? .stringDouble '"' text
  | openCommand => single? .stringBacktick '$' text
  | declaration => declaration? text
  | words table => words? table before text
  | float => float? text
  | integer => run? .numberInteger (text.takeWhile Text.isDigit)
  | name => (name? text).map fun name => [⟨.plainName, name⟩]
  | operator => operator? text
  | punctuation => punctuation? text
  | escape => escape? text
  | openInterpolation => single? .stringInterpol '\x7b' text
  | closeString => single? .stringDouble '"' text
  | stringText => run? .stringDouble (text.takeWhile (isLiteralText '"'))
  | closeCommand => single? .stringBacktick '$' text
  | commandText => run? .stringBacktick (text.takeWhile (isLiteralText '$'))
  | closeInterpolation => single? .stringInterpol '\x7d' text

/-- What a rule does to the states: it may enter one or leave the present one. -/
inductive Move where
  | stay
  | enter (state : LexState)
  | leave
  deriving DecidableEq, Repr

/-- The move of a rule. -/
def move : LexRule → Move
  | openString => .enter .string
  | openCommand => .enter .command
  | openInterpolation => .enter .interpolation
  | closeString => .leave
  | closeCommand => .leave
  | closeInterpolation => .leave
  | _ => .stay

/-- The rules of program text. -/
def programRules : List LexRule :=
  [whitespace, comment, openString, openCommand, declaration, words .keywords, words .types,
   words .constants, words .builtins, float, integer, name, operator, punctuation]

end LexRule

/-- The rules of a state in order. -/
def LexState.rules : LexState → List LexRule
  | root => LexRule.programRules
  | string => [.escape, .openInterpolation, .closeString, .stringText]
  | command => [.escape, .openInterpolation, .closeCommand, .commandText]
  | interpolation => .closeInterpolation :: LexRule.programRules

end AmberTools
