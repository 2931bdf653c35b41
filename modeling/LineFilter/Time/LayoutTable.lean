import LineFilter.Time.Layout

/-!
# The layouts that dates are read by

Literals in a script have few layouts, all with a `T`, so that a number word is
a date only if it says so. Columns are read by more: also by the shapes in which
common tools list dates.
-/

namespace LineFilter.Layout

open LayoutItem

/-- A local time with every field. -/
def localTime (items : List LayoutItem) (precision : Precision) : Layout :=
  ⟨items, precision, .nothing, true⟩

/-- A time of universal clocks. -/
def universal (items : List LayoutItem) : Layout := ⟨items, .second, .nothing, false⟩

/-- A local time in the present year. -/
def thisYear (items : List LayoutItem) (precision : Precision) : Layout :=
  ⟨items, precision, .year, true⟩

/-- Year, month and day between dashes. -/
def dashedDate : List LayoutItem :=
  [number .year, literal '-', number .month, literal '-', number .day]

/-- Year, month and day without anything between them. -/
def compactDate : List LayoutItem := [number .year, number .month, number .day]

def hourMinute : List LayoutItem := [number .hour, literal ':', number .minute]

def hourMinuteSecond : List LayoutItem := hourMinute ++ [literal ':', number .second]

/-- The `T` between a date and a time. -/
def timeMark : List LayoutItem := [literal 'T']

/-- A date with a time to the millisecond, to the second, to the minute, to the
hour, and without a time. -/
def timestamps (date : List LayoutItem) : List Layout :=
  [universal (date ++ timeMark ++ hourMinuteSecond ++ [milliseconds, literal 'Z']),
    localTime (date ++ timeMark ++ hourMinuteSecond) .second,
    localTime (date ++ timeMark ++ hourMinute) .minute,
    localTime (date ++ timeMark ++ [number .hour]) .hour,
    localTime (date ++ timeMark) .day]

/-- A day of the week, a month by name, and a day with its time. -/
def longTime (dayName : LayoutItem) : List LayoutItem :=
  [dayName, space, month, space, number .day, space] ++ hourMinuteSecond

/-- The layouts of literals. -/
def literals : List Layout :=
  timestamps dashedDate ++
    [thisYear ([number .month, literal '-', number .day] ++ timeMark) .day] ++
  timestamps compactDate ++ [thisYear ([number .month, number .day] ++ timeMark) .day]

/-- The layouts of columns. -/
def columns : List Layout :=
  timestamps dashedDate ++ [localTime dashedDate .day] ++
  timestamps compactDate ++ [localTime compactDate .day] ++
  [localTime (longTime weekday ++ [space, zoneName, space, number .year]) .second,
    localTime (longTime fullWeekday ++ [space, zoneName, space, number .year]) .second,
    thisYear (longTime weekday) .second,
    thisYear (longTime fullWeekday) .second,
    localTime [number .day, month, number .shortYear] .day,
    ⟨hourMinute, .minute, .date, true⟩,
    thisYear ([month, space, number .day, space] ++ hourMinute) .minute,
    localTime [month, space, number .day, literal ',', space, number .year] .day,
    localTime [fullMonth, space, number .day, literal ',', space, number .year] .day,
    localTime [month, space, number .day, space, number .year] .day]

end LineFilter.Layout
