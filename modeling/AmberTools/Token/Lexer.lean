import AmberTools.Token.Rule

/-!
# Lexing

The lexer walks through a text with a stack of states. At each position the first rule of the
top state that recognises something gives the next tokens. Where no rule does, a line feed is
white space and returns to the top level, and any other character is an error on its own.
-/

namespace AmberTools

/-- The states of the lexer, the present one on top. There is always one. -/
structure LexStack where
  top : LexState
  below : List LexState
  deriving DecidableEq, Repr

namespace LexStack

/-- The stack at the start of a text. -/
def initial : LexStack := ⟨.root, []⟩

/-- The stack after a move. Leaving the last state stays in it. -/
def move (s : LexStack) : LexRule.Move → LexStack
  | .stay => s
  | .enter state => ⟨state, s.top :: s.below⟩
  | .leave =>
    match s.below with
    | [] => s
    | state :: states => ⟨state, states⟩

end LexStack

namespace Lexer

/-- The first rule that recognises something, with what it recognises. -/
def firstMatch? (rules : List LexRule) (before : Option Char) (text : Text) :
    Option (LexRule × List Token) :=
  rules.findSome? fun rule => (rule.match? before text).map (rule, ·)

/-- The tokens at the head of a text, of which `c` is the first character, and the stack behind
them. -/
def step (stack : LexStack) (before : Option Char) (c : Char) (rest : Text) :
    List Token × LexStack :=
  match firstMatch? stack.top.rules before (c :: rest) with
  | some (rule, tokens) => (tokens, stack.move rule.move)
  | none =>
    if c = '\n' then ([⟨.whitespace, ['\n']⟩], LexStack.initial)
    else ([⟨.error, [c]⟩], stack)

/-- The tokens of a text, each step's tokens together with the stack behind them. -/
def stepsFrom (stack : LexStack) (before : Option Char) (text : Text) :
    List (List Token × LexStack) :=
  match text with
  | [] => []
  | c :: rest =>
    let (tokens, next) := step stack before c rest
    let length := (Token.text tokens).length
    (tokens, next) ::
      stepsFrom next (((c :: rest).take length).getLast?) (rest.drop (length - 1))
termination_by text.length
decreasing_by simp only [List.length_drop, List.length_cons]; omega

/-- The tokens of a text from a given stack and character in front. -/
def tokensFrom (stack : LexStack) (before : Option Char) (text : Text) : List Token :=
  (stepsFrom stack before text).flatMap (·.1)

/-- The tokens of a text. -/
def tokens (text : Text) : List Token := tokensFrom LexStack.initial none text

end Lexer
end AmberTools
