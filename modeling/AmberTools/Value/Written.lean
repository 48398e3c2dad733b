import AmberTools.Decimal.Shortest
import AmberTools.Text.Quoted
import AmberTools.Value.Basic

/-!
# Written values

A value is written as an expression that would make it: texts in quotes, collections in their
brackets with entries in order, and three dots in brackets where a collection holds itself. A
key in a message is shown plainly: texts without quotes, dates in standard form.

Some values are refused instead of being written, since an integer in them has too many digits or
since their collections stand too deep in one another. How much there is room for depends on where
a program runs. Only values without long integers and without members are written everywhere.
-/

namespace AmberTools
namespace Value

/-- The word for a truth value. -/
def boolText (b : Bool) : Text := if b then "True".toList else "False".toList

/-- Written items with commas between them. -/
def commaList (items : List Text) : Text := Text.joinWith ", ".toList items

mutual

/-- The expression for a value. -/
def written : Value → Text
  | null => "None".toList
  | bool b => boolText b
  | int n => Text.ofInt n
  | float x => Shortest.write {} x
  | text t => Quoted.encodeWide t
  | bytes bs => Quoted.encodeBytes bs
  | date d => Calendar.dateCall d
  | moment m => Calendar.momentCall m
  | list items => '[' :: commaList (writtenItems items) ++ [']']
  | pair a b => '(' :: commaList [written a, written b] ++ [')']
  | set [] => "set()".toList
  | set members => '\x7b' :: commaList (writtenItems members) ++ ['\x7d']
  | map entries => '\x7b' :: commaList (writtenEntries entries) ++ ['\x7d']
  | again .list => "[...]".toList
  | again .map => "\x7b...\x7d".toList

/-- The expressions for several values. -/
def writtenItems : List Value → List Text
  | [] => []
  | v :: vs => written v :: writtenItems vs

/-- The expressions for the entries of a map. -/
def writtenEntries : List (Value × Value) → List Text
  | [] => []
  | (k, v) :: rest => (written k ++ ':' :: ' ' :: written v) :: writtenEntries rest

end

/-! ### Values that are refused -/

/-- Why a value is not written. -/
inductive Unwritable where
  /-- An integer in it has too many digits. -/
  | tooManyDigits
  /-- Its collections stand too deep in one another. -/
  | tooDeep
  deriving DecidableEq, Repr

/-- The wording for a value that is not written. -/
def Unwritable.message : Unwritable → String
  | tooManyDigits =>
    "Exceeds the limit (4300 digits) for integer string conversion; " ++
      "use sys.set_int_max_str_digits() to increase the limit"
  | tooDeep => "maximum recursion depth exceeded while getting the repr of an object"

/-- The most decimal digits with which every integer is written, wherever a program runs. -/
def sureDigits : Nat := 640

/-- Values without long integers and without members. -/
def isPlain : Value → Bool
  | int n => n.natAbs < Nat.pow 10 sureDigits
  | list items => items.isEmpty
  | pair _ _ => false
  | set members => members.isEmpty
  | map entries => entries.isEmpty
  | _ => true

/-- How values are written where a program runs. -/
class Writing where
  /-- Why a value is not written, if it is refused. -/
  refusal? : Value → Option Unwritable
  refusal?_of_isPlain : ∀ v, v.isPlain = true → refusal? v = none

/-- Whether a value can be written. -/
def isWritable [Writing] (v : Value) : Bool := (Writing.refusal? v).isNone

/-- What stands in a collection, if there is room for one more around it. -/
def insideOf (inner : Nat → Option Unwritable) : (depth : Nat) → Option Unwritable
  | 0 => some .tooDeep
  | depth + 1 => inner depth

mutual

/-- Why a value is refused where there is room for integers of some digits and for collections of
some depth. What comes first in writing it counts. -/
def refusalWithin (digits : Nat) : Value → (depth : Nat) → Option Unwritable
  | int n => fun _ => if n.natAbs < Nat.pow 10 digits then none else some .tooManyDigits
  | list items => insideOf (refusalAmong digits items)
  | pair a b => insideOf fun depth =>
      (refusalWithin digits a depth).or (refusalWithin digits b depth)
  | set members => insideOf (refusalAmong digits members)
  | map entries => insideOf (refusalAmongEntries digits entries)
  | _ => fun _ => none

/-- Why one of several values is refused. -/
def refusalAmong (digits : Nat) : List Value → (depth : Nat) → Option Unwritable
  | [] => fun _ => none
  | v :: vs => fun depth => (refusalWithin digits v depth).or (refusalAmong digits vs depth)

/-- Why a key or a value of an entry is refused. -/
def refusalAmongEntries (digits : Nat) : List (Value × Value) → (depth : Nat) → Option Unwritable
  | [] => fun _ => none
  | (k, v) :: rest => fun depth =>
    ((refusalWithin digits k depth).or (refusalWithin digits v depth)).or
      (refusalAmongEntries digits rest depth)

end

/-- The most decimal digits of an integer, as a rule. -/
def usualDigits : Nat := 4300

/-- The greatest depth of a collection, as a rule. It depends on what else is going on. -/
def usualDepth : Nat := 990

/-- A plain value is written where there is room for the surest digits and for a collection. -/
theorem refusalWithin_of_isPlain {digits depth : Nat} (hdigits : sureDigits ≤ digits) {v : Value}
    (h : v.isPlain = true) : v.refusalWithin digits (depth + 1) = none := by
  cases v with
  | int n =>
    have hshort : n.natAbs < Nat.pow 10 sureDigits := by
      simpa only [isPlain, decide_eq_true_eq] using h
    have hpow {a b : Nat} (h : a ≤ b) : Nat.pow 10 a ≤ Nat.pow 10 b :=
      Nat.pow_le_pow_right (by decide) h
    rw [refusalWithin, if_pos (Nat.lt_of_lt_of_le hshort (hpow hdigits))]
  | list items =>
    obtain rfl := List.isEmpty_iff.mp h
    rfl
  | set members =>
    obtain rfl := List.isEmpty_iff.mp h
    rfl
  | map entries =>
    obtain rfl := List.isEmpty_iff.mp h
    rfl
  | pair a b => exact nomatch h
  | _ => rfl

/-- How values are written as a rule. -/
instance Writing.usual : Writing where
  refusal? v := v.refusalWithin usualDigits usualDepth
  refusal?_of_isPlain _ := refusalWithin_of_isPlain (by decide)

/-- A value as a message shows it. -/
def shown : Value → WideText
  | text t => t
  | date d => (Calendar.dateText d).wide
  | moment m => (Calendar.momentText m).wide
  | v => (written v).wide

end Value
end AmberTools
