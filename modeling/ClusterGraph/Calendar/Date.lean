namespace ClusterGraph.Calendar

/-! Days of the Gregorian calendar, extended to all years: a day is counted from the first day of
year 1, which is day 0. -/

def isLeap (year : Nat) : Bool :=
  year % 4 == 0 && (year % 100 != 0 || year % 400 == 0)

/-- Days before the first day of a year. -/
def daysBeforeYear (year : Nat) : Nat :=
  (year - 1) * 365 + (year - 1) / 4 - (year - 1) / 100 + (year - 1) / 400

def monthLengths (year : Nat) : List Nat :=
  [31, if isLeap year then 29 else 28, 31, 30, 31, 30, 31, 31, 30, 31, 30, 31]

/-- Years have four digits. -/
def lastYear : Nat := 9999

/-- The number of days up to the end of the last year. -/
def dayCount : Nat := 3652059

structure Date where
  year : Nat
  month : Nat
  day : Nat
deriving DecidableEq, Repr

namespace Date

/-- The length of a month, and no days for a number that is no month. -/
def monthLength (year month : Nat) : Nat :=
  if month = 0 then 0 else (monthLengths year).getD (month - 1) 0

/-- The calendar has the date, within the years counted. -/
def isValid (date : Date) : Bool :=
  1 ≤ date.year && date.year ≤ lastYear && 1 ≤ date.day &&
    date.day ≤ monthLength date.year date.month

def number (date : Date) : Nat :=
  let monthsBefore := (monthLengths date.year).take (date.month - 1)
  daysBeforeYear date.year + monthsBefore.foldl Nat.add 0 + (date.day - 1)

/-- The year of a day and the days of that year before it. Four centuries, a century that is not
the last of four, four years and a year that is not the last of four have fixed lengths. -/
def yearOf (number : Nat) : Nat × Nat :=
  let inCycle := number % 146097
  let century := min 3 (inCycle / 36524)
  let inCentury := inCycle - century * 36524
  let inFour := inCentury % 1461
  let year := min 3 (inFour / 365)
  (400 * (number / 146097) + 100 * century + 4 * (inCentury / 1461) + year + 1,
    inFour - 365 * year)

/-- Counts off months from the front. -/
def monthOf : List Nat → Nat → Nat × Nat
  | [], days => (1, days)
  | length :: rest, days =>
      if days < length then (1, days)
      else
        let (month, days) := monthOf rest (days - length)
        (month + 1, days)

def ofNumber (number : Nat) : Date :=
  let (year, days) := yearOf number
  let (month, days) := monthOf (monthLengths year) days
  ⟨year, month, days + 1⟩

/-- The weekday on which a year starts, Monday being 0. -/
def firstWeekday (year : Nat) : Nat :=
  (daysBeforeYear year) % 7

/-- A year has a week 53 when it starts on a Thursday, or is a leap year that starts on a
Wednesday. -/
def hasLongYear (year : Nat) : Bool :=
  firstWeekday year == 3 || (firstWeekday year == 2 && isLeap year)

/-- The day with a given number of a week, Monday being 1. The first week of a year is the one with
its first Thursday; it may start before the year does. -/
def ofWeek? (year week weekday : Nat) : Option Int :=
  if 1 ≤ week && (week ≤ 52 || (week == 53 && hasLongYear year)) && 1 ≤ weekday && weekday ≤ 7 then
    let first : Int := daysBeforeYear year - firstWeekday year
    let monday := if 3 < firstWeekday year then first + 7 else first
    some (monday + ((week - 1) * 7 + weekday - 1 : Nat))
  else none

end Date

end ClusterGraph.Calendar
