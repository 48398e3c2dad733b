import AmberTools.Highlight.Html
import AmberTools.Highlight.Terminal
import AmberTools.Text.Case
import AmberTools.Text.Quoted
import AmberTools.Token.Prepared
import AmberTools.Value.Written

/-!
# Formatters

A formatter is chosen by name and adjusted by options. Four of them are described here. They write
the tokens of a source in colours for a terminal, as HTML, as plain text, or as a list of tokens;
the list is a sequence of bytes, the others are texts. Which formatters there are besides these is
up to the place where a program runs, and so is what they write and how they fail.
-/

namespace AmberTools

/-- The ways of showing tokens that are described here. -/
inductive Formatter where
  | plain
  | list
  | terminal (options : Terminal.Options)
  | html (options : Html.Options)
  deriving DecidableEq, Repr

namespace Formatter

/-- Why a source is not shown. -/
inductive Fault where
  | unknown (name : Value)
  | notAChoice (option : String) (choices : List String)
  | notASwitch (option : String) (given : WideText)
  | notASwitchKind (option : String) (given : Value)
  /-- A formatter fails in the way in which files do, with a record of that. -/
  | foreseen (record : WideText)
  /-- A formatter fails in a way of its own. -/
  | other (message : String)

/-- The words for turning something on or off, as messages list them. -/
def switchWords : String := "use 1/0, yes/no, true/false, on/off"

/-- The wording of a fault. -/
def Fault.message : Fault → String
  | .unknown name => s!"no formatter found for name {String.ofList name.written}"
  | .notAChoice option choices =>
    s!"Value for option {option} must be one of " ++ ", ".intercalate choices
  | .notASwitch option given =>
    s!"Invalid value {String.ofList (Quoted.encodeWide given)} for option {option}; {switchWords}"
  | .notASwitchKind option given =>
    s!"Invalid type {String.ofList given.written} for option {option}; {switchWords}"
  | .foreseen record => String.ofList (WideText.shown record)
  | .other message => message

/-- The options of a request by name. -/
abbrev Options := List (Text × Value)

/-- The value of an option. -/
def option? (options : Options) (name : String) : Option Value :=
  (options.find? fun o => o.1 == name.toList).map (·.2)

/-- A switch by its word, in any case. -/
def switchOfWord? (word : Text) : Option Bool :=
  let w := String.ofList (word.map Text.lowerAscii)
  if ["1", "yes", "true", "on"].contains w then some true
  else if ["0", "no", "false", "off"].contains w then some false
  else none

/-- The state of a switch: a truth value, a number, which is on unless it is zero, or a word. -/
def switch (options : Options) (name : String) : Except Fault Bool :=
  match option? options name with
  | none => .ok false
  | some (.bool b) => .ok b
  | some (.int n) => .ok (n != 0)
  | some (.text word) =>
    match (WideText.narrow? word).bind switchOfWord? with
    | some b => .ok b
    | none => .error (.notASwitch name word)
  | some v => .error (.notASwitchKind name v)

/-- The text of an option, in characters. -/
def textOr (options : Options) (name : String) (default : Text) : Text :=
  ((option? options name).map fun v => WideText.shown v.shown).getD default

/-- The background an option asks for. -/
def background (options : Options) : Except Fault Terminal.Background :=
  match option? options "bg" with
  | none => .ok .light
  | some (.text t) =>
    if t = WideText.ofString "light" then .ok .light
    else if t = WideText.ofString "dark" then .ok .dark
    else .error (.notAChoice "bg" ["light", "dark"])
  | some _ => .error (.notAChoice "bg" ["light", "dark"])

/-- The options of a terminal. -/
def terminalOptions (options : Options) : Except Fault Terminal.Options := do
  return ⟨← background options, ((option? options "linenos").map (!·.isVacant)).getD false⟩

/-- The options of HTML. -/
def htmlOptions (options : Options) : Except Fault Html.Options := do
  let bare ← switch options "nowrap"
  let wrapCode ← switch options "wrapcode"
  return ⟨bare, wrapCode, textOr options "cssclass" "highlight".toList,
    textOr options "classprefix" [], textOr options "cssstyles" [], textOr options "prestyles" []⟩

/-- The formatter of a given name, if it is one of those described here. -/
def ofName? (name : Text) (options : Options) : Option (Except Fault Formatter) :=
  let word := String.ofList name
  if word = "text" ∨ word = "null" then some (.ok .plain)
  else if word = "raw" ∨ word = "tokens" then some (.ok .list)
  else if word = "terminal" ∨ word = "console" then some ((terminalOptions options).map .terminal)
  else if word = "html" then some ((htmlOptions options).map .html)
  else none

/-- What a formatter writes. -/
inductive Rendering where
  | text (t : Text)
  /-- The bytes of a text in ASCII. -/
  | bytes (t : Text)
  deriving DecidableEq, Repr

/-- One line of the list of tokens: kind and quoted value behind a tab. -/
def listLine (token : Token) : Text :=
  token.kind.name.toList ++ '\t' :: Quoted.encodeAscii token.value ++ ['\n']

/-- The tokens as a formatter writes them. -/
def render (formatter : Formatter) (tokens : List Token) : Rendering :=
  match formatter with
  | plain => .text (Token.text tokens)
  | list => .bytes (tokens.flatMap listLine)
  | terminal options => .text (Terminal.render options tokens)
  | html options => .text (Html.render options tokens)

/-- What becomes of tokens by a formatter. -/
abbrev Writer := List Token → Except Fault Rendering

/-- The formatters that are not described here. -/
class Others where
  /-- What the formatter of a name makes of tokens, if there is one. -/
  find : Text → Options → Except Fault Writer

/-- As a rule there are no others. -/
instance Others.usual : Others where
  find name _ := .error (.unknown (.text name.wide))

/-- What the formatter of a name makes of tokens. -/
def writer [Others] (name : Text) (options : Options) : Except Fault Writer :=
  match ofName? name options with
  | some found => found.map fun formatter tokens => .ok (formatter.render tokens)
  | none => Others.find name options

end Formatter

/-- A source in colours, by the formatter of a given name. -/
def highlight [Formatter.Others] (source : Text) (name : Text) (options : Formatter.Options) :
    Except Formatter.Fault Formatter.Rendering := do
  let write ← Formatter.writer name options
  write (Lexer.preparedTokens source)

end AmberTools
