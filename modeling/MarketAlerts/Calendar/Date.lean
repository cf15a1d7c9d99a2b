/-!
Days of the Gregorian calendar, counted from 0 at the first of January of the year 1, a Monday.
-/
namespace MarketAlerts.Calendar

def isLeap (year : Nat) : Bool :=
  year % 4 == 0 && (year % 100 != 0 || year % 400 == 0)

/-- Days before the first of January of a year from 1 on. -/
def daysBeforeYear (year : Nat) : Nat :=
  let past := year - 1
  past * 365 + past / 4 - past / 100 + past / 400

def monthLength (year month : Nat) : Nat :=
  if month = 2 then (if isLeap year then 29 else 28)
  else if month = 4 ∨ month = 6 ∨ month = 9 ∨ month = 11 then 30
  else 31

/-- Days before the first of a month in its year. -/
def daysBeforeMonth (year month : Nat) : Nat :=
  (List.range (month - 1)).foldl (fun days past => days + monthLength year (past + 1)) 0

structure Date where
  year : Nat
  month : Nat
  day : Nat
  deriving DecidableEq

namespace Date

/-- A day of the years 0 to 9999. -/
def isValid (date : Date) : Bool :=
  date.year ≤ 9999 && 1 ≤ date.month && date.month ≤ 12
    && 1 ≤ date.day && date.day ≤ monthLength date.year date.month

def toDays (date : Date) : Nat :=
  daysBeforeYear date.year + daysBeforeMonth date.year date.month + (date.day - 1)

/-- The year of a day: whole cycles of 400, 100, 4 and 1 years, where the last day of a cycle that
ends in a leap year still belongs to it. -/
def yearOf (days : Nat) : Nat :=
  let inEra := days % 146097
  let centuries := min (inEra / 36524) 3
  let inCentury := inEra - centuries * 36524
  let inFour := inCentury % 1461
  days / 146097 * 400 + centuries * 100 + inCentury / 1461 * 4 + min (inFour / 365) 3 + 1

/-- Finds the month that holds a day of the year, from a given month on. -/
def inMonth (year month : Nat) : (monthsLeft : Nat) → (dayOfYear : Nat) → Date
  | 0, dayOfYear => ⟨year, month, dayOfYear + 1⟩
  | monthsLeft + 1, dayOfYear =>
    if dayOfYear < monthLength year month then ⟨year, month, dayOfYear + 1⟩
    else inMonth year (month + 1) monthsLeft (dayOfYear - monthLength year month)

def ofDays (days : Nat) : Date :=
  let year := yearOf days
  inMonth year 1 11 (days - daysBeforeYear year)

end Date

/-- Days in the years 1 to 9999. -/
def lastDay : Nat := daysBeforeYear 10000

/-- The weekday of a day, Monday first. -/
def mondayWeekday (days : Nat) : Nat := days % 7

/-- The weekday of a day, Sunday first. -/
def sundayWeekday (days : Nat) : Nat := (days + 1) % 7

def weekStart (days : Nat) : Nat := days - mondayWeekday days

def monthStart (days : Nat) : Nat := days - ((Date.ofDays days).day - 1)

end MarketAlerts.Calendar
