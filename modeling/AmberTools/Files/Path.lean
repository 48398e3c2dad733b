import AmberTools.Text.Basic

/-!
# Paths

A path is a sequence of names behind an optional root. Repeated slashes and names of a single
dot say nothing and are dropped; two dots stay, since the name before them may be a link. A root
is one slash, or exactly two.
-/

namespace AmberTools

/-- The root of a path. -/
inductive PathRoot where
  | relative
  | slash
  | twoSlashes
  deriving DecidableEq, Repr

/-- A path. -/
structure Path where
  root : PathRoot
  names : List Text
  deriving DecidableEq, Repr

namespace Path

/-- The root a text starts with. -/
def rootOf (text : Text) : PathRoot :=
  match (text.takeWhile (· == '/')).length with
  | 0 => .relative
  | 2 => .twoSlashes
  | _ => .slash

/-- The path a text describes. -/
def ofText (text : Text) : Path :=
  ⟨rootOf text, (Text.splitOn '/' text).filter fun name => !name.isEmpty && name != ['.']⟩

/-- The text of a root. -/
def rootText : PathRoot → Text
  | .relative => []
  | .slash => ['/']
  | .twoSlashes => ['/', '/']

/-- The text of a path; the path to where one is has a dot. -/
def text (p : Path) : Text :=
  let written := rootText p.root ++ Text.joinWith ['/'] p.names
  if written.isEmpty then ['.'] else written

end Path
end AmberTools
