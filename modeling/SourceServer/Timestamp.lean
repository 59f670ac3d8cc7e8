/-!
# Moments of local time

The date and clock time written into an index, without a time zone.

- `Timestamp.weekday`: the day of the week by the Gregorian calendar.
- `Timestamp.render`: weekday, month, twelve-hour clock and year.
-/

namespace SourceServer

/-- A moment of local time. The second is 60 during a leap second. -/
structure Timestamp where
  year : Int
  month : Nat
  day : Nat
  hour : Nat
  minute : Nat
  second : Nat
deriving DecidableEq

namespace Timestamp

/-- The number of the day, counted from the first of January 1970. Years begin with March, so
that the leap day is their last. -/
def dayNumber (t : Timestamp) : Int :=
  let year := if t.month ≤ 2 then t.year - 1 else t.year
  let era := year / 400
  let yearOfEra := year - era * 400
  let dayOfYear : Int := (153 * ((t.month + 9) % 12) + 2) / 5 + t.day - 1
  era * 146097 + yearOfEra * 365 + yearOfEra / 4 - yearOfEra / 100 + dayOfYear - 719468

/-- The day of the week, Sunday first. -/
def weekday (t : Timestamp) : Nat :=
  ((t.dayNumber + 4) % 7).toNat

/-- The short name of a day of the week. -/
def weekdayName (n : Nat) : String :=
  ["Sun", "Mon", "Tue", "Wed", "Thu", "Fri", "Sat"].getD n ""

/-- The short name of a month, January being 1. -/
def monthName (n : Nat) : String :=
  ["Jan", "Feb", "Mar", "Apr", "May", "Jun", "Jul", "Aug", "Sep", "Oct", "Nov", "Dec"].getD
    (n - 1) ""

/-- A number with zeros in front up to a width. -/
def padded (width n : Nat) : String :=
  let digits := Nat.toDigits 10 n
  String.ofList (List.replicate (width - digits.length) '0' ++ digits)

/-- A year has at least four digits, and a sign when it is negative or has more. -/
def yearText (year : Int) : String :=
  if year < 0 then "-" ++ padded 4 year.natAbs
  else if 9999 < year then "+" ++ padded 4 year.natAbs
  else padded 4 year.natAbs

/-- The hour on a clock with twelve. -/
def hourOnClock (hour : Nat) : Nat :=
  if hour % 12 = 0 then 12 else hour % 12

/-- The text of a moment. -/
def render (t : Timestamp) : String :=
  weekdayName t.weekday ++ " " ++ monthName t.month ++ " " ++ padded 2 (hourOnClock t.hour) ++ ":"
    ++ padded 2 t.minute ++ ":" ++ padded 2 t.second ++ " " ++ yearText t.year

end Timestamp

end SourceServer
