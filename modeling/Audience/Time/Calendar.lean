/-!
# The calendar

Days are counted from 1 January 1970 in the Gregorian calendar, continued without end in both
directions; the year before year 1 is year 0.
-/

namespace Audience.Calendar

/-- A year of 366 days. -/
def isLeap (year : Int) : Bool :=
  year.emod 4 == 0 && (year.emod 100 != 0 || year.emod 400 == 0)

/-- The days of a month, counted from 1; none if there is no such month. -/
def monthLength (year : Int) (month : Nat) : Nat :=
  match month with
  | 1 | 3 | 5 | 7 | 8 | 10 | 12 => 31
  | 4 | 6 | 9 | 11 => 30
  | 2 => if isLeap year then 29 else 28
  | _ => 0

/-- Whether a day exists. -/
def isDay (year : Int) (month day : Nat) : Bool :=
  1 ≤ day && day ≤ monthLength year month

/-- The days from the start of year 1 to the start of a year. -/
def daysBeforeYear (year : Int) : Int :=
  let y := year - 1
  365 * y + y.fdiv 4 - y.fdiv 100 + y.fdiv 400

/-- The days from the start of a year to the start of a month. -/
def daysBeforeMonth (year : Int) (month : Nat) : Nat :=
  ((List.range (month - 1)).map fun m => monthLength year (m + 1)).foldl (· + ·) 0

/-- The days from 1 January 1970 to a day. -/
def dayNumber (year : Int) (month day : Nat) : Int :=
  daysBeforeYear year - daysBeforeYear 1970 + daysBeforeMonth year month + (day - 1 : Nat)

end Audience.Calendar
