import LineFilter.Time.Instant

/-!
# Time zones

A zone tells the offset that is in force at an instant and, for a wall time, the
offsets with which its clocks show that time. Where they were put forward over
it there is none, and where they were put back over it there are several, the
earliest of which is meant.
-/

namespace LineFilter

/-- The offsets with which clocks show a wall time. -/
inductive LocalOffset
  /-- None: clocks were put forward over the time. -/
  | skipped
  | once (offset : Int)
  /-- The offset at the earliest instant of the time and at the latest. -/
  | twice (earliest latest : Int)
deriving DecidableEq, Repr

/-- Whether an offset is in force at the instant to which it leads from a wall
time: then clocks show that time there. -/
def WallTime.IsShown (w : WallTime) (offsetAt : Int → Int) (offset : Int) : Prop :=
  offsetAt (w.count - offset) = offset

instance (w : WallTime) (offsetAt : Int → Int) : DecidablePred (w.IsShown offsetAt) :=
  fun offset => inferInstanceAs (Decidable (offsetAt (w.count - offset) = offset))

/-- A zone as a library of time zones answers for it: two tables, of which nothing
is known but the laws. Offsets are seconds ahead of universal time. -/
structure Zone where
  /-- The offset in force at a second of universal time. -/
  offsetAt : Int → Int
  /-- The offsets that belong to a wall time. -/
  offsetsOf : WallTime → LocalOffset
  /-- An offset is less than a day. -/
  natAbs_offsetAt_lt : ∀ t, (offsetAt t).natAbs < WallTime.secondsPerDay
  /-- A time is skipped only where no clock shows it. -/
  of_skipped : ∀ {w}, w.OnClock → offsetsOf w = .skipped → ∀ offset, ¬ w.IsShown offsetAt offset
  /-- A time has one offset only where clocks show it with that offset and no other. -/
  of_once : ∀ {w offset}, w.OnClock → offsetsOf w = .once offset →
    ∀ other, w.IsShown offsetAt other ↔ other = offset
  /-- Both offsets of a time are shown, and all others that are lie between them:
  the greater the offset, the earlier the instant. -/
  of_twice : ∀ {w earliest latest}, w.OnClock → offsetsOf w = .twice earliest latest →
    w.IsShown offsetAt earliest ∧ w.IsShown offsetAt latest ∧
      ∀ offset, w.IsShown offsetAt offset → latest ≤ offset ∧ offset ≤ earliest

namespace Zone

/-- Clocks that show universal time. -/
def utc : Zone where
  offsetAt _ := 0
  offsetsOf _ := .once 0
  natAbs_offsetAt_lt _ := by decide
  of_skipped _ h := nomatch h
  of_once _ h other := by
    cases h
    exact eq_comm
  of_twice _ h := nomatch h

/-- The earliest instant at which clocks of the zone show a time. The calendar of
universal time has to have the latest one too. -/
def instant? (zone : Zone) (w : WallTime) : Option Instant :=
  match zone.offsetsOf w with
  | .skipped => none
  | .once offset => Instant.ofWall? offset w
  | .twice earliest latest => do
    let _ ← Instant.ofWall? latest w
    Instant.ofWall? earliest w

end Zone

/-- The present moment and the zone of local time. -/
structure Clock where
  second : Int
  nano : Nat
  zone : Zone

namespace Clock

def now (clock : Clock) : Instant := ⟨clock.second, clock.nano, clock.zone.offsetAt clock.second⟩

/-- The local date. -/
def today (clock : Clock) : Date := clock.now.wall.date

end Clock

end LineFilter
