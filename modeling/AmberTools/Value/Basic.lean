import AmberTools.Decimal.Binary64
import AmberTools.Text.CodePoint
import AmberTools.Value.Calendar

/-!
# Values

Settings come as values of a few kinds: nothing, truth values, numbers, texts, bytes, dates and
moments, and collections of them. A collection may hold itself; where it comes back to itself,
the value shows a mark in its place.
-/

namespace AmberTools

/-- The collections that can hold themselves. -/
inductive Collection where
  | list
  | map
  deriving DecidableEq, Repr

/-- A value. -/
inductive Value where
  | null
  | bool (b : Bool)
  | int (n : Int)
  | float (x : Binary64)
  | text (t : WideText)
  | bytes (bs : List UInt8)
  | date (d : Date)
  | moment (m : Moment)
  | list (items : List Value)
  | pair (first second : Value)
  | set (members : List Value)
  | map (entries : List (Value × Value))
  /-- A collection inside itself. -/
  | again (kind : Collection)
  deriving Inhabited

namespace Value

/-- Values that count as absent: nothing, falsehood, zeros, and everything empty. -/
def isVacant : Value → Bool
  | null => true
  | bool b => !b
  | int n => n == 0
  | float x => x.isZero
  | text t => t.isEmpty
  | bytes bs => bs.isEmpty
  | list items => items.isEmpty
  | set members => members.isEmpty
  | map entries => entries.isEmpty
  | date _ => false
  | moment _ => false
  | pair _ _ => false
  | again _ => false

/-- The integer a value is as a key: truth values are one and zero. -/
def keyInt? : Value → Option Int
  | bool b => some (if b then 1 else 0)
  | int n => some n
  | _ => none

/-- Values that are the same key. Numbers are compared by value across their kinds. -/
def sameKey : Value → Value → Bool
  | null, null => true
  | text s, text t => s == t
  | bytes a, bytes b => a == b
  | date a, date b => a == b
  | moment a, moment b => Calendar.same a b
  | float x, float y => x.same y
  | float x, b => (b.keyInt?).elim false x.isInt
  | a, float y => (a.keyInt?).elim false y.isInt
  | a, b =>
    match a.keyInt?, b.keyInt? with
    | some m, some n => m == n
    | _, _ => false

end Value
end AmberTools
