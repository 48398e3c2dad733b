import AmberTools.Text.CodePoint

/-!
# Tokens of YAML

A YAML text is read as a sequence of tokens: scalars and their properties, indicators, and marks
where collections start and end.
-/

namespace AmberTools
namespace Yaml

/-- An instruction at the head of a document. -/
inductive Directive where
  | version (major minor : Nat)
  | tag (handle start : Text)
  | other
  deriving DecidableEq, Repr

/-- A token. -/
inductive Token where
  | streamEnd
  | directive (d : Directive)
  | documentStart
  | documentEnd
  | blockSequenceStart
  | blockMappingStart
  | blockEnd
  | flowSequenceStart
  | flowMappingStart
  | flowSequenceEnd
  | flowMappingEnd
  | flowEntry
  | blockEntry
  | key
  | value
  | alias (name : Text)
  | anchor (name : Text)
  /-- A tag: a handle, which stands for the beginning of the tag, and its remaining text. -/
  | tag (handle : Option Text) (suffix : Text)
  | scalar (text : WideText) (plain : Bool)
  deriving DecidableEq, Repr

end Yaml
end AmberTools
