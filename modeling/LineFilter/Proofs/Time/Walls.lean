import Mathlib.Order.Bounds.Basic
import LineFilter.Proofs.Time.Calendar
import LineFilter.Time.Zone

/-!
# Wall times and their instants

The instant of a wall time shows it: its reading at its own offset is the wall
time again, date and fraction included, and no clock of the zone shows it before.
Since offsets are less than a day, the calendar lacks no instant that shows one of
its dates, but for its first year and its last.
-/

namespace LineFilter

variable {w : WallTime} {zone : Zone} {day t offset : Int} {i : Instant}

theorem WallTime.day_of_midnight (day : Int) : day * secondsPerDay / secondsPerDay = day :=
  Int.mul_ediv_cancel _ (by decide)

theorem WallTime.ofCount_count (h : w.OnClock) (nano : Nat) :
    ofCount w.count nano = { w with nano := nano } := by
  obtain ⟨hdate, hsecond⟩ := h
  have hday : w.count / secondsPerDay = w.date.number := by
    simp only [count, secondsPerDay] at *
    omega
  have hrest : (w.count % secondsPerDay).toNat = w.second := by
    simp only [count, secondsPerDay] at *
    omega
  simp [ofCount, hday, hrest, Date.ofNumber_number hdate]

namespace Zone

/-- What clocks of a zone show, in seconds since midnight of day 0. -/
def wallAt (zone : Zone) (t : Int) : Int := t + zone.offsetAt t

/-- Whether the calendar has the date of an instant, in universal time. -/
def OnCalendar (t : Int) : Prop := (WallTime.ofCount t 0).date.isValid

instance (t : Int) : Decidable (OnCalendar t) := inferInstanceAs (Decidable (_ = true))

/-- What a wall time means in a zone: the first instant at which clocks show it. It
means nothing where they never do, or where the calendar lacks an instant at which
they do. -/
inductive Shows (zone : Zone) (w : WallTime) : Option Instant → Prop
  | first {i : Instant} : i.wall = w → i.offset = zone.offsetAt i.second → OnCalendar i.second →
      IsLeast {t | zone.wallAt t = w.count} i.second → Shows zone w (some i)
  | never : (∀ t, zone.wallAt t ≠ w.count) → Shows zone w none
  | beyond {t : Int} : zone.wallAt t = w.count → ¬ OnCalendar t → Shows zone w none

-- ---------------------------------------------------------------------------
-- Instants with an offset
-- ---------------------------------------------------------------------------

theorem ofWall?_eq_some :
    Instant.ofWall? offset w = some i ↔
      OnCalendar (w.count - offset) ∧ i = ⟨w.count - offset, w.nano, offset⟩ := by
  rw [Instant.ofWall?, OnCalendar]
  split_ifs with h
  · exact ⟨fun hi => ⟨h, (Option.some.inj hi).symm⟩, fun hi => congrArg some hi.2.symm⟩
  · exact ⟨nofun, fun hi => absurd hi.1 h⟩

theorem ofWall?_eq_none : Instant.ofWall? offset w = none ↔ ¬ OnCalendar (w.count - offset) := by
  rw [Instant.ofWall?, OnCalendar]
  split_ifs with h
  · exact ⟨nofun, fun hi => absurd h hi⟩
  · exact ⟨fun _ => h, fun _ => rfl⟩

theorem wallAt_of_isShown (h : w.IsShown zone.offsetAt offset) :
    zone.wallAt (w.count - offset) = w.count := by
  rw [wallAt, h]
  omega

theorem sub_offsetAt (h : zone.wallAt t = w.count) : w.count - zone.offsetAt t = t := by
  rw [← h, wallAt]
  omega

theorem isShown_offsetAt (h : zone.wallAt t = w.count) :
    w.IsShown zone.offsetAt (zone.offsetAt t) := by
  rw [WallTime.IsShown, sub_offsetAt h]

-- ---------------------------------------------------------------------------
-- The instant of a wall time
-- ---------------------------------------------------------------------------

/-- The greatest offset with which clocks show a time leads to its first instant. -/
theorem shows_ofWall? (hw : w.OnClock) (h : w.IsShown zone.offsetAt offset)
    (hmax : ∀ other, w.IsShown zone.offsetAt other → other ≤ offset) :
    zone.Shows w (Instant.ofWall? offset w) := by
  cases hi : Instant.ofWall? offset w with
  | none => exact .beyond (wallAt_of_isShown h) (ofWall?_eq_none.mp hi)
  | some i =>
    obtain ⟨hcalendar, rfl⟩ := ofWall?_eq_some.mp hi
    refine .first ?_ h.symm hcalendar ⟨wallAt_of_isShown h, fun t ht => ?_⟩
    · simp [Instant.wall, WallTime.ofCount_count hw]
    · have hle := hmax _ (isShown_offsetAt ht)
      have hshown := sub_offsetAt ht
      simp only
      omega

theorem shows_instant? (hw : w.OnClock) : zone.Shows w (zone.instant? w) := by
  rw [instant?]
  cases ho : zone.offsetsOf w with
  | skipped => exact .never fun t ht => zone.of_skipped hw ho _ (isShown_offsetAt ht)
  | once offset =>
    have hshown := zone.of_once hw ho
    exact shows_ofWall? hw ((hshown offset).mpr rfl) fun other h => ((hshown other).mp h).le
  | twice earliest latest =>
    obtain ⟨hearliest, hlatest, hbetween⟩ := zone.of_twice hw ho
    simp only [Option.bind_eq_bind]
    -- The latest instant is only asked whether the calendar has it.
    cases hi : Instant.ofWall? latest w with
    | none => exact .beyond (wallAt_of_isShown hlatest) (ofWall?_eq_none.mp hi)
    | some _ => exact shows_ofWall? hw hearliest fun other h => (hbetween other h).2

/-- Where one offset is kept, clocks show every time once. -/
theorem instant?_of_constant (hzone : ∀ t, zone.offsetAt t = offset) (hw : w.OnClock)
    (hcalendar : OnCalendar (w.count - offset)) :
    zone.instant? w = some ⟨w.count - offset, w.nano, offset⟩ := by
  have hwall (t : Int) : zone.wallAt t = w.count ↔ t = w.count - offset := by
    rw [wallAt, hzone]
    omega
  have hshows : zone.Shows w (zone.instant? w) := shows_instant? hw
  generalize zone.instant? w = result at hshows ⊢
  cases hshows with
  | @first i hi hoffset _ hleast =>
    rw [hzone] at hoffset
    have hsecond := (hwall _).mp hleast.1
    have hnano : i.nano = w.nano := congrArg WallTime.nano hi
    exact congrArg some (show (⟨i.second, i.nano, i.offset⟩ : Instant) = _ by
      rw [hsecond, hnano, hoffset])
  | never h => exact absurd ((hwall _).mpr rfl) (h _)
  | beyond ht hbeyond => exact absurd ((hwall _).mp ht ▸ hcalendar) hbeyond

-- ---------------------------------------------------------------------------
-- Instants on the calendar
-- ---------------------------------------------------------------------------

/-- The calendar has all that is within a day of one of its days but the first and
the last. -/
theorem onCalendar_of_near (hmin : Date.number ⟨Date.minYear, 1, 1⟩ < day)
    (hmax : day + 1 < Date.number ⟨Date.maxYear + 1, 1, 1⟩)
    (ht : (day - 1) * WallTime.secondsPerDay ≤ t) (ht' : t < (day + 2) * WallTime.secondsPerDay) :
    OnCalendar t := by
  simp only [WallTime.secondsPerDay] at *
  apply Date.isValid_ofNumber <;> simp only [WallTime.secondsPerDay] <;> omega

theorem onCalendar_of_wallAt (zone : Zone) (hmin : Date.number ⟨Date.minYear, 1, 1⟩ < day)
    (hmax : day + 1 < Date.number ⟨Date.maxYear + 1, 1, 1⟩)
    (ht : zone.wallAt t / WallTime.secondsPerDay = day) : OnCalendar t := by
  have hoffset := zone.natAbs_offsetAt_lt t
  simp only [wallAt, WallTime.secondsPerDay] at ht hoffset
  apply onCalendar_of_near hmin hmax <;> simp only [WallTime.secondsPerDay] <;> omega

/-- Days of a year between the first and the last of the calendar, with the day
before each and the day behind. -/
theorem day_on_calendar {date : Date} (hmin : Date.minYear < date.year)
    (hmax : date.year < Date.maxYear) (hd : date = .ofNumber day) :
    Date.number ⟨Date.minYear, 1, 1⟩ + 1 < day ∧
      day + 2 < Date.number ⟨Date.maxYear + 1, 1, 1⟩ := by
  have hyear := Date.year_ofNumber day
  rw [← hd] at hyear
  have hfirst := Date.number_newYear_le (Int.add_one_le_of_lt hmin)
  have hlast := Date.number_newYear_le (Int.add_one_le_of_lt hmax)
  have hcalendar : Date.number ⟨Date.minYear, 1, 1⟩ + 1 < Date.number ⟨Date.minYear + 1, 1, 1⟩ ∧
      Date.number ⟨Date.maxYear, 1, 1⟩ + 2 < Date.number ⟨Date.maxYear + 1, 1, 1⟩ := by decide
  omega

theorem onCalendar_of_year (hw : w.OnClock) (hmin : Date.minYear < w.date.year)
    (hmax : w.date.year < Date.maxYear) (ht : zone.wallAt t = w.count) : OnCalendar t := by
  have hday : zone.wallAt t / WallTime.secondsPerDay = w.date.number := by
    have hsecond := hw.2
    simp only [ht, WallTime.count, WallTime.secondsPerDay] at *
    omega
  have hcalendar := day_on_calendar hmin hmax (Date.ofNumber_number hw.1).symm
  exact zone.onCalendar_of_wallAt (by omega) (by omega) hday

end Zone

namespace Instant

theorem wall_of_ofWall? (hw : w.OnClock) (h : ofWall? offset w = some i) :
    i.wall = w ∧ i.offset = offset := by
  obtain ⟨-, rfl⟩ := Zone.ofWall?_eq_some.mp h
  simp [wall, WallTime.ofCount_count hw]

/-- Universal clocks show every time of the calendar once. -/
theorem ofWall?_zero (h : w.OnClock) : ofWall? 0 w = some ⟨w.count, w.nano, 0⟩ := by
  refine Zone.ofWall?_eq_some.mpr ⟨?_, by simp⟩
  rw [Zone.OnCalendar, Int.sub_zero, WallTime.ofCount_count h]
  exact h.1

end Instant

end LineFilter
