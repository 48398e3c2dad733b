/-!
# Binary floating point

A finite number of the 64-bit format is a whole multiple of the smallest positive one, so it is
held as a sign and that multiple. Sums, products and quotients are computed exactly and rounded
once: to 53 significant bits, to the nearest number, from a tie to the even one, and to infinity
beyond the largest finite number.
-/

namespace AmberTools

/-- The quotient rounded to the nearest integer, from a tie to the even one. -/
def divNearestEven (num den : Nat) : Nat :=
  let quotient := num / den
  let twice := 2 * (num % den)
  if den < twice then quotient + 1
  else if twice < den then quotient
  else quotient + quotient % 2

/-- A number of the 64-bit format. -/
inductive Binary64 where
  /-- The sign and the magnitude in units of `2 ^ (-1074)`. -/
  | finite (negative : Bool) (units : Nat)
  | infinite (negative : Bool)
  | notANumber
  deriving DecidableEq, Repr

namespace Binary64

/-- The number of units in one. -/
def one : Nat := Nat.pow 2 1074

/-- The number of units in the least power of two above all finite numbers. -/
def bound : Nat := Nat.pow 2 2098

/-- The number of low bits of a magnitude that rounding clears. -/
def spare (units : Nat) : Nat := Nat.log2 units - 52

/-- The number nearest to a quotient of units. -/
def ofUnits (negative : Bool) (num den : Nat) : Binary64 :=
  let step := Nat.pow 2 (spare (num / den))
  let units := divNearestEven num (den * step) * step
  if bound ≤ units then .infinite negative else .finite negative units

/-- The number nearest to a quotient. -/
def ofRatio (negative : Bool) (num den : Nat) : Binary64 := ofUnits negative (num * one) den

/-- The number nearest to an integer. -/
def ofInt (n : Int) : Binary64 := ofRatio (n < 0) n.natAbs 1

/-- The number nearest to `digits * 10 ^ exponent`. Exponents beyond the format's range are
decided by the number of digits alone. -/
def ofDecimal (negative : Bool) (digits : Nat) (exponent : Int) : Binary64 :=
  let places : Int := exponent + (Nat.toDigits 10 digits).length
  if digits = 0 ∨ places < -400 then .finite negative 0
  else if 400 < places then .infinite negative
  else if 0 ≤ exponent then ofRatio negative (digits * Nat.pow 10 exponent.toNat) 1
  else ofRatio negative digits (Nat.pow 10 (-exponent).toNat)

/-- The zero without a sign. -/
def zero : Binary64 := .finite false 0

/-- The number with the other sign. -/
def neg : Binary64 → Binary64
  | .finite negative units => .finite (!negative) units
  | .infinite negative => .infinite (!negative)
  | .notANumber => .notANumber

/-- The units with their sign. -/
def signed (negative : Bool) (units : Nat) : Int := if negative then -(units : Int) else units

/-- The rounded sum. A sum of zero is negative only if both terms are. -/
def add : Binary64 → Binary64 → Binary64
  | .finite m a, .finite n b =>
    let sum := signed m a + signed n b
    if sum = 0 then .finite (m && n) 0 else ofUnits (sum < 0) sum.natAbs 1
  | .infinite m, .infinite n => if m = n then .infinite m else .notANumber
  | .infinite m, .finite .. => .infinite m
  | .finite .., .infinite n => .infinite n
  | .notANumber, _ => .notANumber
  | _, .notANumber => .notANumber

/-- The rounded difference. -/
def sub (x y : Binary64) : Binary64 := add x y.neg

/-- The rounded product. -/
def mul : Binary64 → Binary64 → Binary64
  | .finite m a, .finite n b => ofUnits (m != n) (a * b) one
  | .infinite m, .infinite n => .infinite (m != n)
  | .infinite m, .finite n b => if b = 0 then .notANumber else .infinite (m != n)
  | .finite m a, .infinite n => if a = 0 then .notANumber else .infinite (m != n)
  | .notANumber, _ => .notANumber
  | _, .notANumber => .notANumber

/-- The rounded quotient; there is none by zero. -/
def div? : Binary64 → Binary64 → Option Binary64
  | _, .finite _ 0 => none
  | .finite m a, .finite n b => some (ofRatio (m != n) a b)
  | .infinite m, .finite n _ => some (.infinite (m != n))
  | .finite m _, .infinite n => some (.finite (m != n) 0)
  | .infinite _, .infinite _ => some .notANumber
  | .notANumber, _ => some .notANumber
  | _, .notANumber => some .notANumber

/-- The order of numbers; nothing is below or above what is no number. -/
def lt : Binary64 → Binary64 → Bool
  | .finite m a, .finite n b => signed m a < signed n b
  | .infinite m, .infinite n => m && !n
  | .infinite m, .finite .. => m
  | .finite .., .infinite n => !n
  | .notANumber, _ => false
  | _, .notANumber => false

/-- Equality of numbers: both zeros are equal, and what is no number equals nothing. -/
def same : Binary64 → Binary64 → Bool
  | .finite m a, .finite n b => signed m a == signed n b
  | .infinite m, .infinite n => m == n
  | _, _ => false

/-- Whether a number is a given integer. -/
def isInt (x : Binary64) (n : Int) : Bool :=
  match x with
  | .finite m a => signed m a == n * (one : Int)
  | _ => false

/-- Whether a number is a zero. -/
def isZero : Binary64 → Bool
  | .finite _ units => units == 0
  | _ => false

end Binary64
end AmberTools
