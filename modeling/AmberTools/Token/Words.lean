import AmberTools.Token.Basic

/-!
# Words of Amber

The words with a meaning of their own come in four tables. No word is in two of them.
-/

namespace AmberTools

/-- The tables of words. -/
inductive WordTable where
  | keywords
  | types
  | constants
  | builtins
  deriving DecidableEq, Repr

namespace WordTable

/-- The words of a table by code point. -/
def words : WordTable → List Text
  | keywords =>
    ["and".toList, "as".toList, "break".toList, "const".toList, "continue".toList, "else".toList,
     "exited".toList, "fail".toList, "failed".toList, "for".toList, "from".toList, "fun".toList,
     "if".toList, "import".toList, "in".toList, "is".toList, "let".toList, "loop".toList,
     "main".toList, "nameof".toList, "not".toList, "or".toList, "pub".toList, "ref".toList,
     "return".toList, "silent".toList, "status".toList, "succeeded".toList, "then".toList,
     "trust".toList, "unsafe".toList]
  | types => ["Bool".toList, "Int".toList, "Null".toList, "Num".toList, "Text".toList]
  | constants => ["false".toList, "null".toList, "true".toList]
  | builtins =>
    ["cd".toList, "echo".toList, "exit".toList, "len".toList, "lines".toList, "mv".toList]

/-- The kind of a table's words. -/
def kind : WordTable → TokenKind
  | keywords => .keyword
  | types => .keywordType
  | constants => .keywordConstant
  | builtins => .nameBuiltin

end WordTable

end AmberTools
