import AmberTools.Token.Basic

/-!
# Tokens as HTML

Each token becomes a span with the class of its kind. Spans do not run over a line's end, and
neighbouring tokens of one class on a line share a span.
-/

namespace AmberTools
namespace Html

/-- How a text is shown. -/
structure Options where
  /-- Leaves out the elements around the text. -/
  bare : Bool := false
  /-- Puts the text into a code element. -/
  wrapCode : Bool := false
  /-- The class of the outer element; none if it is empty. -/
  cssClass : Text := "highlight".toList
  /-- What the class of every span starts with. -/
  classStart : Text := []
  /-- The style of the outer element; none if it is empty. -/
  outerStyle : Text := []
  /-- The style of the inner element; none if it is empty. -/
  innerStyle : Text := []
  deriving DecidableEq, Repr

/-- The class of a kind of tokens. -/
def className : TokenKind → String
  | .whitespace => "w"
  | .error => "err"
  | .keyword => "k"
  | .keywordConstant => "kc"
  | .keywordDeclaration => "kd"
  | .keywordType => "kt"
  | .plainName => "n"
  | .nameBuiltin => "nb"
  | .nameFunction => "nf"
  | .stringDouble => "s2"
  | .stringBacktick => "sb"
  | .stringEscape => "se"
  | .stringInterpol => "si"
  | .numberInteger => "mi"
  | .numberFloat => "mf"
  | .operator => "o"
  | .punctuation => "p"
  | .commentSingle => "c1"

/-- A character inside an element. -/
def escapeChar (c : Char) : Text :=
  if c = '&' then "&amp;".toList
  else if c = '<' then "&lt;".toList
  else if c = '>' then "&gt;".toList
  else [c]

/-- A text inside an element. -/
def escape (text : Text) : Text := text.flatMap escapeChar

/-- A character inside an attribute. -/
def escapeAttributeChar (c : Char) : Text :=
  if c = '"' then "&quot;".toList
  else if c = '\'' then "&#x27;".toList
  else escapeChar c

/-- A text inside an attribute. -/
def escapeAttribute (text : Text) : Text := text.flatMap escapeAttributeChar

/-- The opening tag of a kind's span. -/
def openSpan (options : Options) (kind : TokenKind) : Text :=
  "<span class=\"".toList ++ options.classStart ++ (className kind).toList ++ "\">".toList

/-- The closing tag of a span. -/
def closeSpan : Text := "</span>".toList

/-- The line being written: nothing yet, or its text so far with a span of a kind open. -/
inductive Line where
  | fresh
  | within (kind : TokenKind) (text : Text)
  deriving DecidableEq, Repr

/-- The line with one more piece of a kind. An empty piece opens no span. -/
def Line.add (options : Options) (line : Line) (kind : TokenKind) (piece : Text) : Line :=
  match line with
  | .fresh => if piece.isEmpty then .fresh else .within kind (openSpan options kind ++ piece)
  | .within present text =>
    if piece.isEmpty then .within present text
    else if present = kind then .within kind (text ++ piece)
    else .within kind (text ++ closeSpan ++ openSpan options kind ++ piece)

/-- The text of a line that ends here. -/
def Line.close : Line → Text
  | .fresh => ['\n']
  | .within _ text => text ++ closeSpan ++ ['\n']

/-- The text of a line that no further token follows; a line without text needs no end. -/
def Line.last : Line → Text
  | .fresh => []
  | .within kind text => (Line.within kind text).close

/-- The pieces of a token that end a line each, and the line that the last piece starts. -/
def addPieces (options : Options) (kind : TokenKind) (line : Line) : List Text → Text × Line
  | [] => ([], line)
  | [piece] => ([], line.add options kind piece)
  | piece :: pieces =>
    let rest := addPieces options kind .fresh pieces
    ((line.add options kind piece).close ++ rest.1, rest.2)

/-- The lines of several tokens, where a line has been started. -/
def writeLines (options : Options) (line : Line) : List Token → Text
  | [] => line.last
  | token :: tokens =>
    let added := addPieces options token.kind line (Text.splitOn '\n' (escape token.value))
    added.1 ++ writeLines options added.2 tokens

/-- An attribute, left out if its value is empty. -/
def attributeText (name : String) (value : Text) : Text :=
  if value.isEmpty then [] else ' ' :: name.toList ++ "=\"".toList ++ value ++ ['"']

/-- What stands before the lines. -/
def opening (options : Options) : Text :=
  "<div".toList ++ attributeText "class" (escapeAttribute options.cssClass) ++
    attributeText "style" options.outerStyle ++ "><pre".toList ++
    attributeText "style" options.innerStyle ++ "><span></span>".toList ++
    (if options.wrapCode then "<code>".toList else [])

/-- What stands behind the lines. -/
def closing (options : Options) : Text :=
  (if options.wrapCode then "</code>".toList else []) ++ "</pre></div>\n".toList

/-- The tokens as HTML. -/
def render (options : Options) (tokens : List Token) : Text :=
  let lines := writeLines options .fresh tokens
  if options.bare then lines else opening options ++ lines ++ closing options

end Html
end AmberTools
