import AmberTools.Value.Basic

/-!
# The arrangement of sets

A set lists its members by their places in a table, not as they were given. A number's place is
wanted by its remainder modulo a prime, which is the same for equal numbers of all kinds; where
that place is taken, a number goes into the next free one of a short run, or tries elsewhere. Other
values have no place of their own, so a set with one of them lists its members as given.
-/

namespace AmberTools
namespace Arrangement

/-- The prime by whose remainders numbers are placed. -/
def prime : Nat := Nat.pow 2 61 - 1

/-- A remainder with a sign; minus one is kept free. -/
def signedRemainder (negative : Bool) (n : Nat) : Int :=
  let r : Int := (n % prime : Nat)
  let r := if negative then -r else r
  if r = -1 then -2 else r

/-- The remainder of a number. Since `2 ^ 61` counts as one, a unit of `2 ^ (-1074)` counts as
`2 ^ 24`. -/
def remainder? : Value → Option Int
  | .bool b => some (if b then 1 else 0)
  | .int n => some (signedRemainder (n < 0) n.natAbs)
  | .float (.finite negative units) => some (signedRemainder negative (units * Nat.pow 2 24))
  | .float (.infinite negative) => some (if negative then -314159 else 314159)
  | _ => none

/-- The number of places for some members: the least power of two above twice their number, or
eight for fewer than five. -/
def placeCount (members : Nat) : Nat :=
  if members < 5 then 8 else Nat.pow 2 (Nat.log2 (2 * members) + 1)

/-- The places of a run from a given one on: ten, or one where the table ends before. -/
def runFrom (count place : Nat) : List Nat :=
  List.range' place (if place + 9 < count then 10 else 1)

/-- The next place to try. The shift, a number of which five bits fewer count with each try, leads
away from the places that other numbers try. -/
def nextPlace (count place shift : Nat) : Nat := (place * 5 + 1 + shift) % count

section Table

variable {α : Type}

/-- The first free place of a run. -/
def freePlace? (table : Array (Option α)) (run : List Nat) : Option Nat :=
  run.find? fun place => (table.getD place none).isNone

/-- The table with a member in the first free place of the runs that it tries. -/
def put (table : Array (Option α)) (member : α) : (fuel place shift : Nat) → Array (Option α)
  | 0, _, _ => table
  | fuel + 1, place, shift =>
    match freePlace? table (runFrom table.size place) with
    | some free => table.setIfInBounds free (some member)
    | none => put table member fuel (nextPlace table.size place (shift / 32)) (shift / 32)

/-- A remainder as a number of 64 bits. -/
def word (remainder : Int) : Nat := (remainder % (Nat.pow 2 64 : Nat)).toNat

/-- The table with a member where its remainder wants it. After the shift has vanished, the tries
come to every place. -/
def add (table : Array (Option α)) (member : α × Int) : Array (Option α) :=
  put table member.1 (table.size + 14) (word member.2 % table.size) (word member.2)

/-- The members of a set as it lists them, each with its value. -/
def arrange (members : List (α × Value)) : List α :=
  match members.mapM fun m => (remainder? m.2).map (m.1, ·) with
  | none => members.map (·.1)
  | some placed =>
    (placed.foldl add (Array.replicate (placeCount placed.length) none)).toList.filterMap id

end Table

end Arrangement
end AmberTools
