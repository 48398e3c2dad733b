import AmberTools.Text.Blank

/-!
# Physical lines

A text is cut into lines after each line break: a carriage return and line feed together, or
either of them alone. Other separators of Unicode stay inside a line. The break is kept beside
the line, so that the lines joined again are the text; a break at the end of the text starts
no further line.
-/

namespace AmberTools

/-- One physical line. Its terminator is the line break that ended it, or nothing. -/
structure SourceLine where
  /-- The number of lines before this one. -/
  index : Nat
  text : Text
  terminator : Text := []
  deriving DecidableEq, Repr

namespace SourceLine

/-- Why a line cannot be made. -/
inductive Fault where
  | numberNotPositive
  deriving DecidableEq, Repr

/-- The wording of a fault. -/
def Fault.message : Fault → String
  | .numberNotPositive => "SourceLine number must be 1-based"

/-- The number of a line, counted from one. -/
def number (line : SourceLine) : Nat := line.index + 1

/-- The line of a given number, which must be at least one. -/
def ofNumber (number : Int) (text terminator : Text) : Except Fault SourceLine :=
  if number < 1 then .error .numberNotPositive
  else .ok ⟨(number - 1).toNat, text, terminator⟩

/-- A line of blank characters only. -/
def isBlank (line : SourceLine) : Bool := Text.allBlank line.text

/-- The line with its terminator. -/
def full (line : SourceLine) : Text := line.text ++ line.terminator

end SourceLine

namespace Text

/-- The lines of a text, each with its terminator. -/
def linePieces : Text → List (Text × Text)
  | [] => []
  | '\r' :: '\n' :: rest => ([], ['\r', '\n']) :: linePieces rest
  | '\r' :: rest => ([], ['\r']) :: linePieces rest
  | '\n' :: rest => ([], ['\n']) :: linePieces rest
  | c :: rest =>
    match linePieces rest with
    | [] => [([c], [])]
    | (line, terminator) :: pieces => (c :: line, terminator) :: pieces

/-- The numbered lines of a text. -/
def splitLines (text : Text) : List SourceLine :=
  (linePieces text).mapIdx fun i piece => ⟨i, piece.1, piece.2⟩

/-- The text with every line break written as a line feed. -/
def unifyBreaks : Text → Text
  | [] => []
  | '\r' :: '\n' :: rest => '\n' :: unifyBreaks rest
  | '\r' :: rest => '\n' :: unifyBreaks rest
  | c :: rest => c :: unifyBreaks rest

/-- The pieces of a text that end after each line feed, the line feeds kept. -/
def cutAfterFeeds : Text → List Text
  | [] => []
  | '\n' :: rest => ['\n'] :: cutAfterFeeds rest
  | c :: rest =>
    match cutAfterFeeds rest with
    | [] => [[c]]
    | piece :: pieces => (c :: piece) :: pieces

end Text
end AmberTools
