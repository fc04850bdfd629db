import Worksheet.Text.Basic

/-!
# Days of the Gregorian calendar

Dates of the years 1 to 9999 and their ordinals, which count days from 1 January of the year 1.
`ordinal` and `ofOrdinal` take one to the other.
-/

namespace Worksheet

structure Date where
  year : Nat
  month : Nat
  day : Nat
  deriving DecidableEq, Repr

namespace Date

def maxYear : Nat := 9999

def isLeap (year : Nat) : Bool := year % 4 == 0 && (year % 100 != 0 || year % 400 == 0)

def daysInMonth (year month : Nat) : Nat :=
  if month = 2 then (if isLeap year then 29 else 28)
  else if month = 4 || month = 6 || month = 9 || month = 11 then 30
  else 31

/-- The days of all years before. -/
def daysBeforeYear (year : Nat) : Nat :=
  let y := year - 1
  365 * y + y / 4 - y / 100 + y / 400

/-- The days of the year before a month. -/
def daysBeforeMonth (year : Nat) : (month : Nat) → Nat
  | 0 | 1 => 0
  | m + 2 => daysBeforeMonth year (m + 1) + daysInMonth year (m + 1)

/-- Whether the date exists. -/
def isValid (d : Date) : Bool :=
  1 ≤ d.year && d.year ≤ maxYear && 1 ≤ d.month && d.month ≤ 12 && 1 ≤ d.day &&
    d.day ≤ daysInMonth d.year d.month

/-- The number of the day, 1 for 1 January of the year 1. -/
def ordinal (d : Date) : Nat := daysBeforeYear d.year + daysBeforeMonth d.year d.month + d.day

/-- The number of the last day. -/
def maxOrdinal : Nat := 3652059

/-- The month and day of the `n`-th day of a year, counted from 0, looking from `month` on. -/
def monthDay (year n : Nat) : (months : Nat) → (month : Nat) → Nat × Nat
  | 0, month => (month, n + 1)
  | months + 1, month =>
    if n < daysInMonth year month then (month, n + 1)
    else monthDay year (n - daysInMonth year month) months (month + 1)

/-- The year of an ordinal: the mean length of a year is 146097 / 400 days, and the estimate is off
by at most one. -/
def yearOfOrdinal (n : Nat) : Nat :=
  let y := (n - 1) * 400 / 146097 + 1
  if daysBeforeYear (y + 1) < n then y + 1
  else if daysBeforeYear y < n then y
  else y - 1

/-- The date with a number. -/
def ofOrdinal (n : Nat) : Date :=
  let y := yearOfOrdinal n
  let (m, d) := monthDay y (n - daysBeforeYear y - 1) 11 1
  ⟨y, m, d⟩

/-- The weekday of an ordinal, Sunday being 0. -/
def weekday (n : Nat) : Nat := n % 7

end Date

end Worksheet
