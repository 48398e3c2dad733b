import AmberTools.Text.Basic

/-!
# Dates and times

Dates of the Gregorian calendar from year 1 to 9999, and times of day down to a microsecond with
an optional distance to coordinated universal time. A distance is a whole number of minutes and
shorter than a day. Each has two written forms: the standard one, and a call that would make it.
-/

namespace AmberTools

/-- A day of the calendar. -/
structure Date where
  year : Nat
  month : Nat
  day : Nat
  deriving DecidableEq, Repr

/-- A time of day. -/
structure Clock where
  hour : Nat := 0
  minute : Nat := 0
  second : Nat := 0
  microsecond : Nat := 0
  deriving DecidableEq, Repr

/-- A moment: a day, a time of day, and the minutes by which that time is ahead of universal
time, if they are known. -/
structure Moment where
  date : Date
  clock : Clock
  ahead : Option Int := none
  deriving DecidableEq, Repr

namespace Calendar

/-- Why numbers are no date or time. -/
inductive Fault where
  | year (given : Nat)
  | month
  | day
  | hour
  | minute
  | second
  | offset (minutes : Int)
  deriving DecidableEq, Repr

/-- Leap years: every fourth, of the centuries every fourth. -/
def isLeap (year : Nat) : Bool := year % 4 == 0 && (year % 100 != 0 || year % 400 == 0)

/-- The number of days of a month. -/
def monthLength (year month : Nat) : Nat :=
  if month = 2 then if isLeap year then 29 else 28
  else if month = 4 ∨ month = 6 ∨ month = 9 ∨ month = 11 then 30
  else 31

/-- The date of given numbers, the first wrong one being at fault. -/
def makeDate (year month day : Nat) : Except Fault Date :=
  if year < 1 ∨ 9999 < year then .error (.year year)
  else if month < 1 ∨ 12 < month then .error .month
  else if day < 1 ∨ monthLength year month < day then .error .day
  else .ok ⟨year, month, day⟩

/-- The time of day of given numbers, the first wrong one being at fault. -/
def makeClock (hour minute second microsecond : Nat) : Except Fault Clock :=
  if 23 < hour then .error .hour
  else if 59 < minute then .error .minute
  else if 59 < second then .error .second
  else .ok ⟨hour, minute, second, microsecond⟩

/-- A distance to universal time in minutes, which must be shorter than a day. -/
def makeOffset (minutes : Int) : Except Fault Int :=
  if 1440 ≤ minutes.natAbs then .error (.offset minutes) else .ok minutes

/-- A number padded with zeros. -/
def padded (digits n : Nat) : Text :=
  let written := Text.ofNat n
  List.replicate (digits - written.length) '0' ++ written

/-- The number of days before a date since the calendar's first day. -/
def dayNumber (d : Date) : Nat :=
  let y := d.year - 1
  let months := (List.range d.month).filter (0 < ·)
  365 * y + y / 4 - y / 100 + y / 400 + (months.map (monthLength d.year)).foldr (· + ·) d.day

/-- The microseconds since the calendar's first day began, by the clock shown. -/
def microseconds (m : Moment) : Nat :=
  (((dayNumber m.date * 24 + m.clock.hour) * 60 + m.clock.minute) * 60 + m.clock.second) * 1000000
    + m.clock.microsecond

/-- Moments that are the same: by the clocks shown, both without a distance to universal time, or
by universal time. -/
def same (a b : Moment) : Bool :=
  match a.ahead, b.ahead with
  | none, none => a == b
  | some x, some y =>
    (microseconds a : Int) - x * 60000000 == (microseconds b : Int) - y * 60000000
  | _, _ => false

/-! ## Written forms -/

/-- Year, month and day with hyphens between them. -/
def dateText (d : Date) : Text :=
  padded 4 d.year ++ '-' :: padded 2 d.month ++ '-' :: padded 2 d.day

/-- A distance to universal time as hours and minutes. -/
def offsetText (minutes : Int) : Text :=
  (if minutes < 0 then '-' else '+') ::
    (padded 2 (minutes.natAbs / 60) ++ ':' :: padded 2 (minutes.natAbs % 60))

/-- Date and time with a space between them. -/
def momentText (m : Moment) : Text :=
  let c := m.clock
  dateText m.date ++ ' ' :: padded 2 c.hour ++ ':' :: padded 2 c.minute ++ ':' ::
    padded 2 c.second ++
    (if c.microsecond = 0 then [] else '.' :: padded 6 c.microsecond) ++
    (m.ahead.elim [] offsetText)

/-- Numbers with commas between them. -/
private def numberList (ns : List Nat) : Text := Text.joinWith ", ".toList (ns.map Text.ofNat)

/-- A call that makes a date. -/
def dateCall (d : Date) : Text :=
  "datetime.date(".toList ++ numberList [d.year, d.month, d.day] ++ [')']

/-- A call that makes a length of time of whole minutes: days, which may be negative, and the
seconds beyond them. -/
def durationCall (minutes : Int) : Text :=
  let days := minutes / 1440
  let seconds := minutes % 1440 * 60
  let parts :=
    (if days = 0 then [] else ["days=".toList ++ Text.ofInt days]) ++
    (if seconds = 0 then [] else ["seconds=".toList ++ Text.ofInt seconds])
  "datetime.timedelta(".toList ++
    (if parts.isEmpty then ['0'] else Text.joinWith ", ".toList parts) ++ [')']

/-- An expression for a time zone. -/
def zoneCall (minutes : Int) : Text :=
  if minutes = 0 then "datetime.timezone.utc".toList
  else "datetime.timezone(".toList ++ durationCall minutes ++ [')']

/-- A call that makes a moment; seconds and microseconds are left out where they are zero. -/
def momentCall (m : Moment) : Text :=
  let c := m.clock
  let fields := [m.date.year, m.date.month, m.date.day, c.hour, c.minute] ++
    (if c.microsecond = 0 then if c.second = 0 then [] else [c.second]
      else [c.second, c.microsecond])
  "datetime.datetime(".toList ++ numberList fields ++
    (m.ahead.elim [] fun minutes => ", tzinfo=".toList ++ zoneCall minutes) ++ [')']

/-- The wording of a fault. -/
def Fault.message : Fault → String
  | .year y => s!"year {y} is out of range"
  | .month => "month must be in 1..12"
  | .day => "day is out of range for month"
  | .hour => "hour must be in 0..23"
  | .minute => "minute must be in 0..59"
  | .second => "second must be in 0..59"
  | .offset minutes =>
    "offset must be a timedelta strictly between -timedelta(hours=24) and timedelta(hours=24), " ++
      s!"not {String.ofList (durationCall minutes)}."

end Calendar
end AmberTools
