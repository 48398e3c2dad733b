import AmberTools.Text.Word
import AmberTools.Yaml.Fault
import AmberTools.Value.Basic

/-!
# Timestamps

A timestamp is a date, or a date and a time with an optional fraction of a second and an optional
distance to universal time. Untagged scalars are timestamps only if a date on its own has two
digits for month and day.
-/

namespace AmberTools
namespace Yaml

/-- The distance to universal time in a timestamp. -/
inductive ZoneText where
  | none
  | universal
  | offset (negative : Bool) (hours minutes : Nat)
  deriving DecidableEq, Repr

/-- The parts of a timestamp's time. -/
structure TimeText where
  hour : Nat
  minute : Nat
  second : Nat
  /-- The digits of the fraction of a second. -/
  fraction : Text
  zone : ZoneText
  deriving DecidableEq, Repr

/-- The parts of a timestamp. -/
structure Timestamp where
  year : Nat
  month : Nat
  day : Nat
  /-- Whether month and day have two digits each. -/
  padded : Bool
  time : Option TimeText
  deriving DecidableEq, Repr

namespace Timestamp

/-- The value of digits. -/
def value (digits : Text) : Nat :=
  digits.foldl (fun n c => 10 * n + (c.toNat - '0'.toNat)) 0

/-- Digits of at least and at most given numbers, and what follows. -/
def digits? (least most : Nat) (text : Text) : Option (Text × Text) :=
  let run := (text.take most).takeWhile Text.isAsciiDigit
  if least ≤ run.length then some (run, text.drop run.length) else none

/-- What follows a given character. -/
def after? (c : Char) (text : Text) : Option Text := Text.dropStart? [c] text

/-- Spaces and tabs. -/
def isSpace (c : Char) : Bool := c == ' ' || c == '\t'

/-- The distance to universal time at the end of a timestamp. -/
def zone? (text : Text) : Option ZoneText :=
  match text.dropWhile isSpace with
  | [] => if text.isEmpty then some .none else none
  | ['Z'] => some .universal
  | sign :: rest => do
    if sign != '+' && sign != '-' then none
    let (hours, rest) ← digits? 1 2 rest
    match rest with
    | [] => some (.offset (sign == '-') (value hours) 0)
    | _ =>
      let (minutes, rest) ← digits? 2 2 (← after? ':' rest)
      if rest.isEmpty then some (.offset (sign == '-') (value hours) (value minutes)) else none

/-- The time of a timestamp behind the date: a letter or spaces, and the time. -/
def time? (text : Text) : Option TimeText := do
  let rest ← match text with
    | 'T' :: rest => some rest
    | 't' :: rest => some rest
    | c :: rest => if isSpace c then some (rest.dropWhile isSpace) else none
    | [] => none
  let (hour, rest) ← digits? 1 2 rest
  let (minute, rest) ← digits? 2 2 (← after? ':' rest)
  let (second, rest) ← digits? 2 2 (← after? ':' rest)
  let (fraction, rest) := match rest with
    | '.' :: rest => (rest.takeWhile Text.isAsciiDigit, rest.dropWhile Text.isAsciiDigit)
    | rest => ([], rest)
  return ⟨value hour, value minute, value second, fraction, ← zone? rest⟩

/-- The parts of a timestamp without a line feed at its end. -/
def parse? (text : Text) : Option Timestamp := do
  let (year, rest) ← digits? 4 4 text
  let (month, rest) ← digits? 1 2 (← after? '-' rest)
  let (day, rest) ← digits? 1 2 (← after? '-' rest)
  let padded := month.length == 2 && day.length == 2
  match rest with
  | [] => return ⟨value year, value month, value day, padded, none⟩
  | _ => return ⟨value year, value month, value day, padded, some (← time? rest)⟩

/-- Whether an untagged scalar is a timestamp. -/
def isImplicit (text : Text) : Bool :=
  (parse? text).any fun t => t.padded || t.time.isSome

/-- The first six digits of a fraction as millionths. -/
def millionths (fraction : Text) : Nat :=
  let digits := fraction.take 6
  value (digits ++ List.replicate (6 - digits.length) '0')

/-- The distance to universal time in minutes. -/
def ahead? (zone : ZoneText) : Except Calendar.Fault (Option Int) :=
  match zone with
  | .none => .ok none
  | .universal => .ok (some 0)
  | .offset negative hours minutes =>
    let total : Int := 60 * hours + minutes
    (Calendar.makeOffset (if negative then -total else total)).map some

/-- The date or moment of a timestamp. -/
def toValue (t : Timestamp) : Except Calendar.Fault Value :=
  match t.time with
  | none => (Calendar.makeDate t.year t.month t.day).map .date
  | some time => do
    let ahead ← ahead? time.zone
    let date ← Calendar.makeDate t.year t.month t.day
    let clock ← Calendar.makeClock time.hour time.minute time.second (millionths time.fraction)
    return .moment ⟨date, clock, ahead⟩

end Timestamp
end Yaml
end AmberTools
