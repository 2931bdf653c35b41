import LineFilter.Time.Zone

/-!
# Date keywords

`now` is the present moment; the other keywords are local midnight of a day
near it.
-/

namespace LineFilter

inductive Keyword
  | now
  | today
  | yesterday
  | tomorrow
deriving DecidableEq, Repr

namespace Keyword

def all : List Keyword := [.now, .today, .yesterday, .tomorrow]

def name : Keyword → Text
  | .now => "now".toList
  | .today => "today".toList
  | .yesterday => "yesterday".toList
  | .tomorrow => "tomorrow".toList

def ofName? (name : Text) : Option Keyword := all.find? (·.name = name)

theorem ofName?_name (k : Keyword) : ofName? k.name = some k := by
  cases k <;> decide

/-- The day that a keyword names, if the calendar has it. -/
def day? (clock : Clock) : Keyword → Option Date
  | .now => none
  | .today => Date.ofNumber? clock.today.number
  | .yesterday => Date.ofNumber? (clock.today.number - 1)
  | .tomorrow => Date.ofNumber? (clock.today.number + 1)

/-- The instant that a keyword means: the beginning of its day, or the present
moment if no clock shows it. -/
def resolve (clock : Clock) (k : Keyword) : Instant :=
  ((day? clock k).bind fun day => clock.zone.instant? (.midnight day)).getD clock.now

end Keyword

end LineFilter
