import LineFilter.Time.Date

/-!
# Instants and wall clocks

An instant is a point of time; it also carries the offset in which it is
shown. A wall time is what a clock and a calendar read there. A leap second is
the second before it with a billion nanoseconds more.
-/

namespace LineFilter

/-- What a clock and a calendar on a wall read. -/
structure WallTime where
  date : Date
  /-- Seconds since midnight. -/
  second : Nat
  nano : Nat
deriving DecidableEq, Repr, Inhabited

namespace WallTime

/-- Seconds of a day. -/
def secondsPerDay : Nat := 86400

/-- A date of the calendar and a second of the day. -/
def OnClock (w : WallTime) : Prop := w.date.isValid ∧ w.second < secondsPerDay

/-- Seconds since midnight of day 0. -/
def count (w : WallTime) : Int := w.date.number * secondsPerDay + w.second

/-- The reading so many seconds after midnight of day 0. -/
def ofCount (count : Int) (nano : Nat) : WallTime :=
  ⟨Date.ofNumber (count / secondsPerDay), (count % secondsPerDay).toNat, nano⟩

def midnight (date : Date) : WallTime := ⟨date, 0, 0⟩

@[simp] theorem onClock_midnight {date : Date} : (midnight date).OnClock ↔ date.isValid := by
  simp [OnClock, midnight, secondsPerDay]

def hour (w : WallTime) : Nat := w.second / 3600

def minute (w : WallTime) : Nat := w.second / 60 % 60

/-- The second of the minute; a leap second is number 60. -/
def secondOfMinute (w : WallTime) : Nat := w.second % 60 + w.nano / 1000000000

/-- Hour, minute and second between colons. -/
def clockText (w : WallTime) : Text :=
  Text.padded 2 w.hour ++ ':' :: Text.padded 2 w.minute ++ ':' :: Text.padded 2 w.secondOfMinute

end WallTime

structure Instant where
  /-- Seconds since 1970 in universal time. -/
  second : Int
  nano : Nat
  /-- Seconds that local clocks are ahead of universal time. -/
  offset : Int
deriving DecidableEq, Repr, Inhabited

namespace Instant

/-- Earlier instants come first, whatever their offsets. -/
def order (a b : Instant) : Ordering :=
  (compare a.second b.second).then (compare a.nano b.nano)

/-- The reading of a wall clock at the offset of the instant. -/
def wall (i : Instant) : WallTime := .ofCount (i.second + i.offset) i.nano

/-- The instant at which a wall clock with this offset shows the time, if the
calendar of universal time has its date. -/
def ofWall? (offset : Int) (w : WallTime) : Option Instant :=
  let second := w.count - offset
  if (WallTime.ofCount second w.nano).date.isValid then some ⟨second, w.nano, offset⟩ else none

/-- An offset in hours and minutes behind its sign, to the nearest minute. -/
def offsetText (offset : Int) : Text :=
  let minutes := (offset.natAbs + 30) / 60
  (if offset < 0 then '-' else '+') ::
    (Text.padded 2 (minutes / 60) ++ ':' :: Text.padded 2 (minutes % 60))

/-- Date, time to the second, and offset. -/
def text (i : Instant) : Text :=
  i.wall.date.text ++ ' ' :: i.wall.clockText ++ ' ' :: offsetText i.offset

end Instant

end LineFilter
