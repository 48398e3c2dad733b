import AmberTools.Token.Basic

/-!
# Colours in a terminal

Each token is written between the sequences that turn its colour on and off, line by line, so
that no colour runs over a line's end. Lines may be numbered.
-/

namespace AmberTools
namespace Terminal

/-- The shade of the terminal behind the text. -/
inductive Background where
  | light
  | dark
  deriving DecidableEq, Repr

/-- How a text is shown. -/
structure Options where
  background : Background := .light
  numbered : Bool := false
  deriving DecidableEq, Repr

/-- A sequence with the given parameters. -/
def sequence (parameters : Text) : Text := '\x1b' :: '[' :: (parameters ++ ['m'])

/-- The sequence that ends a colour. -/
def reset : Text := sequence "39;49;00".toList

/-- The sequences that start the colour of a kind of token, if it has one: errors are underlined
as well. -/
def colour? (background : Background) (kind : TokenKind) : Option Text :=
  let pick := fun light dark : String =>
    some (sequence (match background with
      | .light => light.toList
      | .dark => dark.toList))
  match kind with
  | .whitespace => pick "37" "90"
  | .commentSingle => pick "37" "90"
  | .keyword => pick "34" "94"
  | .keywordConstant => pick "34" "94"
  | .keywordDeclaration => pick "34" "94"
  | .keywordType => pick "36" "96"
  | .nameBuiltin => pick "36" "96"
  | .nameFunction => pick "32" "92"
  | .stringDouble => pick "33" "33"
  | .stringBacktick => pick "33" "33"
  | .stringEscape => pick "33" "33"
  | .stringInterpol => pick "33" "33"
  | .numberInteger => pick "34" "94"
  | .numberFloat => pick "34" "94"
  | .error => some (sequence "04".toList ++ sequence "91".toList)
  | .plainName => none
  | .operator => none
  | .punctuation => none

/-- Characters that end a line on a terminal, a carriage return with a line feed counting as
one. -/
def isLineEnd (c : Char) : Bool :=
  let n := c.toNat
  (0x0a ≤ n && n ≤ 0x0d) || (0x1c ≤ n && n ≤ 0x1e) || n == 0x85 || n == 0x2028 || n == 0x2029

/-- The lines of a token's value with their ends. -/
def lines : Text → List Text
  | [] => []
  | '\r' :: '\n' :: rest => ['\r', '\n'] :: lines rest
  | c :: rest =>
    if isLineEnd c then [c] :: lines rest
    else match lines rest with
      | [] => [[c]]
      | line :: more => (c :: line) :: more

/-- The number in front of a line. -/
def lineNumber (n : Nat) : Text :=
  let digits := Text.ofNat n
  List.replicate (4 - digits.length) '0' ++ digits ++ ": ".toList

/-- What ends a line when the given number of line numbers has been written. -/
def lineBreak (options : Options) (numbers : Nat) : Text :=
  if options.numbered then '\n' :: lineNumber (numbers + 1) else ['\n']

/-- One line of a token in its colour, without the line feeds at its end. An empty line is
coloured like any other. -/
def paint (options : Options) (kind : TokenKind) (line : Text) : Text :=
  let visible := Text.dropRightWhile (· == '\n') line
  match colour? options.background kind with
  | some colour => colour ++ visible ++ reset
  | none => visible

/-- One line of a token with its end, and the number of line numbers written by then. -/
def writeLine (options : Options) (kind : TokenKind) (numbers : Nat) (line : Text) :
    Text × Nat :=
  if line.getLast? = some '\n' then
    (paint options kind line ++ lineBreak options numbers, numbers + 1)
  else (paint options kind line, numbers)

/-- The lines of several tokens, each with its kind. -/
def pieces (tokens : List Token) : List (TokenKind × Text) :=
  tokens.flatMap fun t => (lines t.value).map (t.kind, ·)

/-- The lines written one after the other. -/
def writePieces (options : Options) (numbers : Nat) : List (TokenKind × Text) → Text
  | [] => []
  | (kind, line) :: rest =>
    let written := writeLine options kind numbers line
    written.1 ++ writePieces options written.2 rest

/-- The tokens in colours. -/
def render (options : Options) (tokens : List Token) : Text :=
  if options.numbered then lineNumber 1 ++ writePieces options 1 (pieces tokens) ++ ['\n']
  else writePieces options 0 (pieces tokens)

end Terminal
end AmberTools
