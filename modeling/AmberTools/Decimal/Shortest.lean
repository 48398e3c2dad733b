import AmberTools.Decimal.Binary64
import AmberTools.Text.Basic

/-!
# Shortest decimals

A finite number is written with the fewest decimal digits that are read back as the same number,
and among those with the digits nearest to it. The digits are searched on decimal grids of
increasing fineness: the number's two neighbours on a grid are the only candidates there.
-/

namespace AmberTools
namespace Shortest

/-- A decimal `digits * 10 ^ exponent`. -/
structure Decimal where
  digits : Nat
  exponent : Int
  deriving DecidableEq, Repr

/-- The numbers that round to a magnitude, in quarters of a unit: from `low` to `high`, the ends
included or not. -/
structure Interval where
  low : Nat
  high : Nat
  closed : Bool
  deriving DecidableEq, Repr

/-- The interval of a positive magnitude: half a step to both sides, a quarter step below a power
of two, where the numbers are twice as dense. Ties round to even magnitudes. -/
def interval (units : Nat) : Interval :=
  let s := Binary64.spare units
  let step := Nat.pow 2 s
  let below := if 0 < s ∧ units = Nat.pow 2 (52 + s) then step else 2 * step
  ⟨4 * units - below, 4 * units + 2 * step, units / step % 2 == 0⟩

/-- A quotient of naturals. -/
structure Ratio where
  num : Nat
  den : Nat

/-- A decimal in quarters of a unit. -/
def Decimal.quarters (d : Decimal) : Ratio :=
  if 0 ≤ d.exponent then ⟨4 * Binary64.one * d.digits * Nat.pow 10 d.exponent.toNat, 1⟩
  else ⟨4 * Binary64.one * d.digits, Nat.pow 10 (-d.exponent).toNat⟩

/-- Whether a decimal lies in an interval. -/
def Interval.contains (i : Interval) (d : Decimal) : Bool :=
  let q := d.quarters
  if i.closed then i.low * q.den ≤ q.num && q.num ≤ i.high * q.den
  else i.low * q.den < q.num && q.num < i.high * q.den

/-- The largest decimal of a given exponent that is not above a magnitude. -/
def floorOn (units : Nat) (exponent : Int) : Nat :=
  if 0 ≤ exponent then units / (Binary64.one * Nat.pow 10 exponent.toNat)
  else units * Nat.pow 10 (-exponent).toNat / Binary64.one

/-- Whether the decimal is nearer to a magnitude than the next one on its grid. At equal
distance the even one is nearer. -/
def floorIsNearer (units digits : Nat) (exponent : Int) : Bool :=
  let a := (Decimal.mk digits exponent).quarters
  let b := (Decimal.mk (digits + 1) exponent).quarters
  let double := 8 * units * a.den
  if double < a.num + b.num then true
  else if a.num + b.num < double then false
  else digits % 2 == 0

/-- The neighbour on a grid that reads back as the magnitude, if there is one. -/
def onGrid? (units : Nat) (exponent : Int) : Option Decimal :=
  let i := interval units
  let digits := floorOn units exponent
  let below : Decimal := ⟨digits, exponent⟩
  let above : Decimal := ⟨digits + 1, exponent⟩
  match i.contains below, i.contains above with
  | true, true => some (if floorIsNearer units digits exponent then below else above)
  | true, false => some below
  | false, true => some above
  | false, false => none

/-- The least exponent `e` such that a magnitude is below `10 ^ e`, searched from a bound that is
too low by at most the given fuel. -/
def decimalPoint (units : Nat) : Nat → Int → Int
  | 0, e => e
  | fuel + 1, e => if floorOn units e = 0 then e else decimalPoint units fuel (e + 1)

/-- A lower bound of the exponent from the number of bits, since `2 ^ 10` is above `10 ^ 3`. -/
def pointBound (units : Nat) : Int :=
  let bits : Int := (Nat.log2 units : Int) - 1074
  if 0 ≤ bits then bits * 3 / 10 else bits * 31 / 100 - 2

/-- The first grid with a hit, from the given number of digits on. -/
def search (units : Nat) (point : Int) : (fuel digits : Nat) → Decimal
  | 0, digits => ⟨floorOn units (point - digits), point - digits⟩
  | fuel + 1, digits =>
    match onGrid? units (point - digits) with
    | some d => d
    | none => search units point fuel (digits + 1)

/-- The shortest decimal of a positive magnitude. Seventeen digits always suffice. -/
def shortest (units : Nat) : Decimal :=
  search units (decimalPoint units 80 (pointBound units)) 17 1

/-- Where numbers are written with an exponent: below the first power of ten and from the second
one on. -/
structure Format where
  /-- The least position of the decimal point that is written out. -/
  leastPoint : Int := -3
  /-- The greatest position of the decimal point that is written out. -/
  greatestPoint : Int := 16
  /-- The least number of digits of an exponent. -/
  exponentDigits : Nat := 2

/-- Digits without zeros at the end. -/
private def significant (digits : Text) : Text := Text.dropRightWhile (· == '0') digits

/-- An exponent with its sign and least number of digits. -/
private def exponentText (format : Format) (e : Int) : Text :=
  let digits := Text.ofNat e.natAbs
  (if e < 0 then '-' else '+') ::
    (List.replicate (format.exponentDigits - digits.length) '0' ++ digits)

/-- Digits with the decimal point behind the given number of them. A number written out shows at
least one digit after the point. -/
def layOut (format : Format) (digits : Text) (point : Int) : Text :=
  if format.leastPoint ≤ point ∧ point ≤ format.greatestPoint then
    if point ≤ 0 then "0.".toList ++ List.replicate (-point).toNat '0' ++ digits
    else
      let whole := digits.take point.toNat
      let rest := digits.drop point.toNat
      whole ++ List.replicate (point.toNat - whole.length) '0' ++
        '.' :: (if rest.isEmpty then ['0'] else rest)
  else
    let rest := digits.drop 1
    digits.take 1 ++ (if rest.isEmpty then [] else '.' :: rest) ++
      'e' :: exponentText format (point - 1)

/-- A magnitude as text. -/
def magnitudeText (format : Format) (units : Nat) : Text :=
  if units = 0 then "0.0".toList
  else
    let d := shortest units
    let all := Text.ofNat d.digits
    layOut format (significant all) (d.exponent + all.length)

/-- A number as text. -/
def write (format : Format) : Binary64 → Text
  | .finite negative units => (if negative then ['-'] else []) ++ magnitudeText format units
  | .infinite negative => (if negative then ['-'] else []) ++ "inf".toList
  | .notANumber => "nan".toList

end Shortest
end AmberTools
