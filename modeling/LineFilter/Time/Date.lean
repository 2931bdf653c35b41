import LineFilter.Text.Basic

/-!
# Dates

Dates of the Gregorian calendar, extended to all years, and their numbers: day
0 is the first of January 1970. A valid date and its number determine each
other.
-/

namespace LineFilter

structure Date where
  year : Int
  month : Nat
  day : Nat
deriving DecidableEq, Repr, Inhabited

namespace Date

def isLeap (year : Int) : Bool := year % 4 = 0 && (year % 100 ≠ 0 || year % 400 = 0)

/-- The length of February in the year. -/
def february (year : Int) : Nat := if isLeap year then 29 else 28

/-- The lengths of the months of a year. -/
def monthLengths (year : Int) : List Nat :=
  [31, february year, 31, 30, 31, 30, 31, 31, 30, 31, 30, 31]

/-- The least and the greatest year of a date. -/
def minYear : Int := -262143
def maxYear : Int := 262142

/-- Whether the calendar has the date. -/
def isValid (d : Date) : Bool :=
  minYear ≤ d.year && d.year ≤ maxYear && 1 ≤ d.month && 1 ≤ d.day &&
    (monthLengths d.year)[d.month - 1]?.any (d.day ≤ ·)

/-- Days from the first of January of year 1 to that of the year. -/
def daysBeforeYear (year : Int) : Int :=
  let y := year - 1
  365 * y + y / 4 - y / 100 + y / 400

/-- The number of the first of January of year 1. -/
def firstDay : Int := -719162

/-- Days from the first of January to the first of the month. -/
def daysBeforeMonth (year : Int) (month : Nat) : Nat :=
  ((monthLengths year).take (month - 1)).foldl Nat.add 0

/-- The number of a date. -/
def number (d : Date) : Int :=
  firstDay + daysBeforeYear d.year + daysBeforeMonth d.year d.month + d.day - 1

/-- The year that holds the day so many days after the first of January of
year 1. The quotient is off by one year at most. -/
def yearOf (days : Int) : Int :=
  let year := days * 400 / 146097 + 1
  if days < daysBeforeYear year then year - 1
  else if daysBeforeYear (year + 1) ≤ days then year + 1
  else year

/-- Month and day of a day of the year, counted from zero and from month `m`,
in months of the given lengths. -/
def splitMonths (m : Nat) : List Nat → Nat → Nat × Nat
  | [], day => (m, day + 1)
  | length :: lengths, day =>
    if day < length then (m, day + 1) else splitMonths (m + 1) lengths (day - length)

/-- The date with a number. -/
def ofNumber (n : Int) : Date :=
  let days := n - firstDay
  let year := yearOf days
  let (month, day) := splitMonths 1 (monthLengths year) (days - daysBeforeYear year).toNat
  ⟨year, month, day⟩

/-- The date with a number, if the calendar has it. -/
def ofNumber? (n : Int) : Option Date :=
  let date := ofNumber n
  if date.isValid then some date else none

/-- The day of the week of a day number, from 0 for Sunday. -/
def weekdayOf (n : Int) : Nat := ((n + 4) % 7).toNat

def weekday (d : Date) : Nat := weekdayOf d.number

/-- A year in four digits, behind a sign if that is not enough. -/
def yearText (year : Int) : Text :=
  if year < 0 then '-' :: Text.padded 4 year.natAbs
  else if year ≤ 9999 then Text.padded 4 year.toNat
  else '+' :: Text.ofNat year.toNat

/-- Year, month and day between dashes. -/
def text (d : Date) : Text :=
  yearText d.year ++ '-' :: Text.padded 2 d.month ++ '-' :: Text.padded 2 d.day

end Date

end LineFilter
