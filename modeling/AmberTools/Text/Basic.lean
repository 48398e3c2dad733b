/-!
# Texts

A text is a list of characters, one list cell for each Unicode scalar value, so that lengths,
positions and cuts all count characters. This module holds the few list operations that every
other module shares: cutting at a separator, joining, and trimming at the end.
-/

namespace AmberTools

/-- A text is the list of its characters. -/
abbrev Text := List Char

namespace Text

/-- The pieces of a sequence, of characters or others, between the occurrences of a separator;
there is always one more piece than there are separators. -/
def splitOn {α : Type} [DecidableEq α] (sep : α) : List α → List (List α)
  | [] => [[]]
  | c :: rest =>
    if c = sep then [] :: splitOn sep rest
    else match splitOn sep rest with
      | [] => [[c]]
      | piece :: pieces => (c :: piece) :: pieces

/-- The pieces with a separator between neighbours. -/
def joinWith (sep : Text) : List Text → Text
  | [] => []
  | [piece] => piece
  | piece :: pieces => piece ++ sep ++ joinWith sep pieces

/-- The text without its longest ending on which the test holds throughout. -/
def dropRightWhile (p : Char → Bool) (text : Text) : Text :=
  (text.reverse.dropWhile p).reverse

/-- The text after a given beginning, if it has that beginning. -/
def dropStart? : (start text : Text) → Option Text
  | [], text => some text
  | _ :: _, [] => none
  | c :: start, d :: text => if c = d then dropStart? start text else none

/-- The text in front of a separator's first occurrence and the text behind it. -/
def cutAt? (sep : Char) (text : Text) : Option (Text × Text) :=
  match text.dropWhile (· != sep) with
  | [] => none
  | _ :: rest => some (text.takeWhile (· != sep), rest)

/-- The text repeated a number of times. -/
def times (count : Nat) (text : Text) : Text :=
  (List.replicate count text).flatten

/-- The decimal digits of a natural number. -/
def ofNat (n : Nat) : Text := Nat.toDigits 10 n

/-- The decimal digits of an integer, a minus sign before them if it is negative. -/
def ofInt : Int → Text
  | .ofNat n => ofNat n
  | .negSucc n => '-' :: ofNat (n + 1)

/-- Lexicographic order by code point. -/
def le : Text → Text → Bool
  | [], _ => true
  | _ :: _, [] => false
  | c :: s, d :: t => c.toNat < d.toNat || (c = d && le s t)

end Text
end AmberTools
