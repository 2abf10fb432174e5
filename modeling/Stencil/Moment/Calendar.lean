/-! # Days and times of day

A `Day` is a day of the Gregorian calendar, carried on into the past; a `Clock` is a time of day. -/

namespace Stencil.Moment

/-- A year, month and day, which need not name a day that exists. -/
structure Day where
  year : Int
  month : Nat
  day : Nat
  deriving DecidableEq, Repr

/-- A time of day; the second 60 is a leap second. -/
structure Clock where
  hour : Nat
  minute : Nat
  second : Nat
  /-- The digits behind the second are not all zero. -/
  fraction : Bool
  deriving DecidableEq, Repr

/-- Whether a year has a leap day. -/
def isLeap (year : Int) : Bool := year % 4 == 0 && (year % 100 != 0 || year % 400 == 0)

/-- The number of days of a month. -/
def daysIn (year : Int) (month : Nat) : Nat :=
  if month = 2 then if isLeap year then 29 else 28
  else if month = 4 || month = 6 || month = 9 || month = 11 then 30
  else 31

namespace Day

/-- The first and the last year in which days are counted. -/
def firstYear : Int := -262143

@[inherit_doc firstYear]
def lastYear : Int := 262142

/-- Whether the day exists. -/
def isValid (d : Day) : Bool :=
  firstYear ≤ d.year && d.year ≤ lastYear && 1 ≤ d.month && d.month ≤ 12 &&
    1 ≤ d.day && d.day ≤ daysIn d.year d.month

/-- The number of days in the years before a year, up to a constant. -/
def daysBeforeYear (year : Int) : Int :=
  let y := year - 1
  365 * y + y.fdiv 4 - y.fdiv 100 + y.fdiv 400

/-- The number of days in the months before a month of a year. -/
def daysBeforeMonth (year : Int) : Nat → Nat
  | 0 | 1 => 0
  | m + 2 => daysBeforeMonth year (m + 1) + daysIn year (m + 1)

/-- The day of the week; 0 is Monday. -/
def weekday (d : Day) : Int :=
  (daysBeforeYear d.year + daysBeforeMonth d.year d.month + d.day - 1).fmod 7

end Day

namespace Clock

/-- Whether the time exists. -/
def isValid (c : Clock) : Bool := c.hour ≤ 23 && c.minute ≤ 59 && c.second ≤ 60

/-- The first instant of the day. -/
def midnight : Clock := ⟨0, 0, 0, false⟩

end Clock
end Stencil.Moment
