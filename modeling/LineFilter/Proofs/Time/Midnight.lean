import Mathlib.Tactic.ByContra
import LineFilter.Proofs.Time.Walls
import LineFilter.Time.Keyword
import LineFilter.Time.ZoneRule

/-!
# Midnights

In every zone a day keyword means the first instant at which clocks show the
midnight of its day. In a zone that keeps one offset, or whose changes stay away
from midnight, every day begins with that instant, and the keywords stand around
the present moment in order. Where a change skips midnight the keyword means the
present moment instead, although the day has a first instant all the same.
-/

namespace LineFilter

-- ---------------------------------------------------------------------------
-- Where a day begins
-- ---------------------------------------------------------------------------

namespace Zone

variable {zone : Zone} {day day' t t' s : Int}

/-- The number of the local date. -/
def dayAt (zone : Zone) (t : Int) : Int := zone.wallAt t / WallTime.secondsPerDay

/-- Clocks show midnight, for the first time, and never again an earlier time. -/
structure Begins (zone : Zone) (day t : Int) : Prop where
  midnight : zone.wallAt t = day * WallTime.secondsPerDay
  before : ∀ s < t, zone.wallAt s < day * WallTime.secondsPerDay
  after : ∀ s, t ≤ s → day * WallTime.secondsPerDay ≤ zone.wallAt s

/-- Such an instant is the first of its day. -/
theorem Begins.isLeast (h : zone.Begins day t) : IsLeast {s | zone.dayAt s = day} t := by
  have hmidnight := h.midnight
  simp only [WallTime.secondsPerDay] at hmidnight
  refine ⟨?_, fun s (hs : zone.dayAt s = day) => ?_⟩
  · simp only [Set.mem_ofPred_eq, dayAt, WallTime.secondsPerDay]
    omega
  · by_contra hlt
    have hbefore := h.before s (by omega)
    simp only [dayAt, WallTime.secondsPerDay] at hs hbefore
    omega

theorem Begins.lt (h : zone.Begins day t) (h' : zone.Begins day' t') (hd : day < day') :
    t < t' := by
  by_contra hle
  have hafter := h'.after t (by omega)
  have hmidnight := h.midnight
  simp only [WallTime.secondsPerDay] at hafter hmidnight
  omega

theorem Begins.le_of_dayAt (h : zone.Begins day t) (hs : day ≤ zone.dayAt s) : t ≤ s := by
  by_contra hlt
  have hbefore := h.before s (by omega)
  simp only [dayAt, WallTime.secondsPerDay] at hs hbefore
  omega

theorem Begins.lt_of_dayAt (h : zone.Begins day t) (hs : zone.dayAt s < day) : s < t := by
  by_contra hle
  have hafter := h.after s (by omega)
  simp only [dayAt, WallTime.secondsPerDay] at hs hafter
  omega

end Zone

-- ---------------------------------------------------------------------------
-- Yearly changes
-- ---------------------------------------------------------------------------

namespace ZoneChange

variable {c c' : ZoneChange}

/-- A week of one of the twelve months. -/
def InYear (c : ZoneChange) : Prop := 1 ≤ c.month ∧ c.month ≤ 12 ∧ c.week ≤ 5

instance (c : ZoneChange) : Decidable c.InYear := inferInstanceAs (Decidable (_ ∧ _ ∧ _))

/-- The day of a change lies in its month. -/
theorem dayNumber_month (h : c.InYear) (year : Int) :
    Date.number ⟨year, c.month, 1⟩ ≤ c.dayNumber year ∧
      c.dayNumber year < Date.number ⟨year, c.month + 1, 1⟩ := by
  obtain ⟨hfirst, hlast, hweek⟩ := h
  obtain ⟨length, hlength, hweeks, hnext⟩ := Date.number_next year hfirst hlast
  have hlead := Nat.mod_lt
    (c.weekday + 7 - Date.weekdayOf (Date.number ⟨year, c.month, 1⟩)) (show 7 > 0 by decide)
  simp only [dayNumber, hlength, Option.getD_some, hnext]
  split <;> omega

theorem dayNumber_year (h : c.InYear) (year : Int) :
    Date.number ⟨year, 1, 1⟩ ≤ c.dayNumber year ∧
      c.dayNumber year < Date.number ⟨year + 1, 1, 1⟩ := by
  obtain ⟨hle, hlt⟩ := dayNumber_month h year
  have hfirst := Date.number_mono year h.1
  have hlast := Date.number_mono year (Nat.add_le_add_right h.2.1 1)
  rw [Date.number_newYear] at hlast
  omega

theorem dayNumber_lt (h : c.InYear) (h' : c'.InYear) (hm : c.month < c'.month) (year : Int) :
    c.dayNumber year < c'.dayNumber year := by
  obtain ⟨-, hlt⟩ := dayNumber_month h year
  obtain ⟨hle, -⟩ := dayNumber_month h' year
  have hmonths := Date.number_mono year (show c.month + 1 ≤ c'.month from hm)
  omega

end ZoneChange

-- ---------------------------------------------------------------------------
-- Rules that keep midnights
-- ---------------------------------------------------------------------------

namespace Zone

variable {zone : Zone} {day : Int}

theorem begins_of_high {low high : Int}
    (hbounds : ∀ t, low ≤ zone.offsetAt t ∧ zone.offsetAt t ≤ high)
    (h : ∀ t, day * WallTime.secondsPerDay - high ≤ t → t < day * WallTime.secondsPerDay - low →
      zone.offsetAt t = high) :
    zone.Begins day (day * WallTime.secondsPerDay - high) := by
  refine ⟨?_, fun s hs => ?_, fun s hs => ?_⟩
  · have := h (day * WallTime.secondsPerDay - high)
    have := hbounds (day * WallTime.secondsPerDay - high)
    rw [wallAt]
    omega
  · have := hbounds s
    rw [wallAt]
    omega
  · have := h s
    have := hbounds s
    rw [wallAt]
    omega

theorem begins_of_low {low high : Int}
    (hbounds : ∀ t, low ≤ zone.offsetAt t ∧ zone.offsetAt t ≤ high)
    (h : ∀ t, day * WallTime.secondsPerDay - high ≤ t → t ≤ day * WallTime.secondsPerDay - low →
      zone.offsetAt t = low) :
    zone.Begins day (day * WallTime.secondsPerDay - low) := by
  refine ⟨?_, fun s hs => ?_, fun s hs => ?_⟩
  · have := h (day * WallTime.secondsPerDay - low)
    have := hbounds (day * WallTime.secondsPerDay - low)
    rw [wallAt]
    omega
  · have := h s
    have := hbounds s
    rw [wallAt]
    omega
  · have := hbounds s
    rw [wallAt]
    omega

/-- Whether a zone has the offsets of a rule. -/
def Follows (zone : Zone) (rule : ZoneRule) : Prop := ∀ t, zone.offsetAt t = rule.offsetAt t

end Zone

namespace ZoneRule

variable {rule : ZoneRule} {zone : Zone} {day t : Int}

/-- No change skips a midnight or shows one twice: clocks are put forward within
a day, and put back within a day. -/
def KeepsMidnight : ZoneRule → Prop
  | .fixed _ => True
  | .yearly standard summer start finish =>
    standard ≤ summer ∧ start.InYear ∧ finish.InYear ∧ start.month ≠ finish.month ∧
      0 < start.second ∧ start.second + (summer - standard) ≤ WallTime.secondsPerDay ∧
      summer - standard ≤ finish.second ∧ finish.second ≤ WallTime.secondsPerDay

instance : DecidablePred KeepsMidnight
  | .fixed _ => inferInstanceAs (Decidable True)
  | .yearly .. => inferInstanceAs (Decidable (_ ∧ _))

section Yearly

variable {standard summer : Int} {start finish : ZoneChange}

/-- Whether a second lies in the summer time of a year, between the changes or,
where the one that ends it comes first, outside them. -/
def IsSummer (standard summer : Int) (start finish : ZoneChange) (year t : Int) : Prop :=
  start.count year - standard ≤ t ∧ t < finish.count year - summer ∨
    finish.count year - summer ≤ start.count year - standard ∧
      (t < finish.count year - summer ∨ start.count year - standard ≤ t)

instance (year t : Int) : Decidable (IsSummer standard summer start finish year t) :=
  inferInstanceAs (Decidable (_ ∨ _))

theorem offsetAt_yearly (ht : (t + standard) / WallTime.secondsPerDay = day) :
    (yearly standard summer start finish).offsetAt t =
      if IsSummer standard summer start finish (Date.ofNumber day).year t then summer
      else standard := by
  subst ht
  simp only [offsetAt, IsSummer]
  congr 1
  split_ifs with h
  · simp only [Bool.and_eq_true, decide_eq_true_eq, eq_iff_iff]
    omega
  · simp only [Bool.not_eq_true', Bool.and_eq_false_iff, decide_eq_false_iff_not, eq_iff_iff]
    omega

/-- A year that begins in winter time does so wherever the year before ended in
it: the changes of all years come in one order. -/
theorem not_isSummer_newYear {last year : Int}
    (h : (yearly standard summer start finish).KeepsMidnight) (hsaving : standard < summer)
    (hlast : Date.number ⟨last + 1, 1, 1⟩ ≤ day) (hyear : day ≤ Date.number ⟨year, 1, 1⟩)
    (hwinter :
      ¬ IsSummer standard summer start finish last (day * WallTime.secondsPerDay - summer)) :
    ¬ IsSummer standard summer start finish year (day * WallTime.secondsPerDay - standard) := by
  obtain ⟨-, hstart, hfinish, hmonth, hstart0, hstart1, hfinish0, hfinish1⟩ := h
  have hstartLast := ZoneChange.dayNumber_year hstart last
  have hfinishLast := ZoneChange.dayNumber_year hfinish last
  have hstartYear := ZoneChange.dayNumber_year hstart year
  have hfinishYear := ZoneChange.dayNumber_year hfinish year
  simp only [IsSummer, ZoneChange.count, WallTime.secondsPerDay] at *
  rcases Nat.lt_or_gt_of_ne hmonth with hmonth | hmonth
  · have horder := ZoneChange.dayNumber_lt hstart hfinish hmonth year
    omega
  · have horder := ZoneChange.dayNumber_lt hfinish hstart hmonth last
    omega

/-- Every day begins with a midnight if the changes leave midnight alone: in the
time in which some clocks show the day already, no change occurs. -/
theorem begins_yearly (hzone : zone.Follows (yearly standard summer start finish))
    (h : (yearly standard summer start finish).KeepsMidnight) (day : Int) :
    ∃ t, zone.Begins day t := by
  have hkeeps := h
  obtain ⟨hle, hstart, hfinish, -, hstart0, hstart1, hfinish0, hfinish1⟩ := h
  have hbounds (t : Int) : standard ≤ zone.offsetAt t ∧ zone.offsetAt t ≤ summer := by
    rw [hzone t, offsetAt]
    split <;> omega
  rcases Int.le_iff_lt_or_eq.mp hle with hsaving | rfl
  case inr => exact ⟨_, Zone.begins_of_low hbounds fun t _ _ => by have := hbounds t; omega⟩
  have heve {t : Int} (ht : day * WallTime.secondsPerDay - summer ≤ t)
      (ht' : t < day * WallTime.secondsPerDay - standard) :
      (t + standard) / WallTime.secondsPerDay = day - 1 := by
    simp only [WallTime.secondsPerDay] at *
    omega
  by_cases hsummer : IsSummer standard summer start finish (Date.ofNumber (day - 1)).year
      (day * WallTime.secondsPerDay - summer)
  · refine ⟨_, Zone.begins_of_high hbounds fun t ht ht' => ?_⟩
    rw [hzone t, offsetAt_yearly (heve ht ht'), if_pos]
    simp only [IsSummer, ZoneChange.count, WallTime.secondsPerDay] at *
    omega
  · refine ⟨_, Zone.begins_of_low hbounds fun t ht ht' => ?_⟩
    rw [hzone t]
    rcases Int.lt_or_eq_of_le ht' with hlt | rfl
    · rw [offsetAt_yearly (heve ht hlt), if_neg]
      simp only [IsSummer, ZoneChange.count, WallTime.secondsPerDay] at *
      omega
    · have hday : (day * WallTime.secondsPerDay - standard + standard) / WallTime.secondsPerDay =
          day := by
        rw [Int.sub_add_cancel, WallTime.day_of_midnight]
      rw [offsetAt_yearly hday, if_neg]
      rcases Date.year_next day with hsame | ⟨hlast, hyear⟩
      · rw [hsame]
        simp only [IsSummer, ZoneChange.count, WallTime.secondsPerDay] at *
        omega
      · exact not_isSummer_newYear hkeeps hsaving hlast hyear hsummer

end Yearly

theorem KeepsMidnight.begins (h : rule.KeepsMidnight) (hzone : zone.Follows rule) (day : Int) :
    ∃ t, zone.Begins day t := by
  cases rule with
  | fixed offset =>
    exact ⟨_, Zone.begins_of_low (fun t => ⟨(hzone t).ge, (hzone t).le⟩) fun t _ _ => hzone t⟩
  | yearly standard summer start finish => exact begins_yearly hzone h day

/-- New York changes at two in the morning. -/
example : (yearly (-18000) (-14400) ⟨3, 2, 0, 7200⟩ ⟨11, 1, 0, 7200⟩).KeepsMidnight := by decide

end ZoneRule

-- ---------------------------------------------------------------------------
-- Keywords
-- ---------------------------------------------------------------------------

namespace Keyword

variable {clock : Clock} {day : Date} {t : Int} {k : Keyword}

theorem number_of_ofNumber? {n : Int} (h : Date.ofNumber? n = some day) :
    day.isValid ∧ day.number = n := by
  simp only [Date.ofNumber?] at h
  split_ifs at h with hvalid
  cases h
  exact ⟨hvalid, Date.number_ofNumber n⟩

theorem isValid_of_day? (h : day? clock k = some day) : day.isValid := by
  cases k with
  | now => cases h
  | today | yesterday | tomorrow => exact (number_of_ofNumber? h).1

theorem today_number (clock : Clock) : clock.today.number = clock.zone.dayAt clock.second :=
  Date.number_ofNumber _

/-- The calendar has every instant at which clocks show the midnight of a day. -/
def HasMidnights (clock : Clock) (day : Date) : Prop :=
  ∀ t, clock.zone.wallAt t = day.number * WallTime.secondsPerDay → Zone.OnCalendar t

/-- A keyword names a day that begins with a midnight of the calendar. -/
def Dawns (clock : Clock) (k : Keyword) : Prop :=
  ∃ day t, day? clock k = some day ∧ HasMidnights clock day ∧ clock.zone.Begins day.number t

/-- The keywords stand around the present moment, in the order of instants, whatever
their offsets. -/
structure Ordered (clock : Clock) : Prop where
  yesterday : (resolve clock .yesterday).order (resolve clock .today) = .lt
  today : (resolve clock .today).order clock.now ≠ .gt
  tomorrow : clock.now.order (resolve clock .tomorrow) = .lt

/-- What keywords mean with a clock, whatever its zone. -/
structure Bounds (clock : Clock) : Prop where
  now : resolve clock .now = clock.now
  /-- A day keyword means the first instant of its day if that is a midnight. -/
  begins : ∀ k day, day? clock k = some day → HasMidnights clock day →
    ∀ t, clock.zone.Begins day.number t →
      resolve clock k = ⟨t, 0, clock.zone.offsetAt t⟩ ∧
        IsLeast {s | clock.zone.dayAt s = day.number} t
  /-- Where clocks show that midnight at all, it means the first that does. -/
  shows : ∀ k day, day? clock k = some day → HasMidnights clock day →
    ∀ t, clock.zone.wallAt t = day.number * WallTime.secondsPerDay →
      ∃ s, resolve clock k = ⟨s, 0, clock.zone.offsetAt s⟩ ∧
        IsLeast {s | clock.zone.wallAt s = day.number * WallTime.secondsPerDay} s
  /-- It means the present moment if no clock shows that midnight. -/
  skips : ∀ k day, day? clock k = some day →
    (∀ t, clock.zone.wallAt t ≠ day.number * WallTime.secondsPerDay) →
    resolve clock k = clock.now
  order : (∀ k ≠ .now, Dawns clock k) → Ordered clock
  /-- The calendar lacks no day and no midnight, but in its first year and its last. -/
  calendar : Date.minYear < clock.today.year → clock.today.year < Date.maxYear →
    ∀ k ≠ .now, ∃ day, day? clock k = some day ∧ HasMidnights clock day
  /-- Where changes leave midnight alone, every day begins with one. -/
  keeps : ∀ rule, clock.zone.Follows rule → rule.KeepsMidnight →
    ∀ day, ∃ t, clock.zone.Begins day t
  keepsOrder : ∀ rule, clock.zone.Follows rule → rule.KeepsMidnight →
    Date.minYear < clock.today.year → clock.today.year < Date.maxYear → Ordered clock

/-- The keyword means what the zone makes of the midnight of its day. -/
theorem resolve_eq (hk : day? clock k = some day) :
    ∃ result, clock.zone.Shows (.midnight day) result ∧
      resolve clock k = result.getD clock.now := by
  refine ⟨_, Zone.shows_instant? (WallTime.onClock_midnight.mpr (isValid_of_day? hk)), ?_⟩
  rw [resolve, hk, Option.bind_some]

theorem resolve_of_shows (hk : day? clock k = some day) (hcalendar : HasMidnights clock day)
    (hwall : clock.zone.wallAt t = day.number * WallTime.secondsPerDay) :
    ∃ s, resolve clock k = ⟨s, 0, clock.zone.offsetAt s⟩ ∧
      IsLeast {s | clock.zone.wallAt s = day.number * WallTime.secondsPerDay} s := by
  have hcount : (WallTime.midnight day).count = day.number * WallTime.secondsPerDay :=
    Int.add_zero _
  obtain ⟨result, hshows, hresolve⟩ := resolve_eq hk
  cases hshows with
  | @first i hi hoffset _ hleast =>
    rw [hcount] at hleast
    refine ⟨i.second, ?_, hleast⟩
    have hnano : i.nano = 0 := congrArg WallTime.nano hi
    rw [hresolve, Option.getD_some, ← hoffset, ← hnano]
  | never h => exact absurd (hwall.trans hcount.symm) (h t)
  | beyond ht hbeyond => exact absurd (hcalendar _ (ht.trans hcount)) hbeyond

theorem resolve_of_begins (hk : day? clock k = some day) (hcalendar : HasMidnights clock day)
    (h : clock.zone.Begins day.number t) : resolve clock k = ⟨t, 0, clock.zone.offsetAt t⟩ := by
  obtain ⟨s, heq, hwall, hleast⟩ := resolve_of_shows hk hcalendar h.midnight
  have hday : clock.zone.dayAt s = day.number := by
    rw [Zone.dayAt, hwall, WallTime.day_of_midnight]
  rw [heq, Int.le_antisymm (hleast h.midnight) (h.le_of_dayAt (Int.le_of_eq hday.symm))]

theorem resolve_of_skips (hk : day? clock k = some day)
    (h : ∀ t, clock.zone.wallAt t ≠ day.number * WallTime.secondsPerDay) :
    resolve clock k = clock.now := by
  obtain ⟨result, hshows, hresolve⟩ := resolve_eq hk
  cases hshows with
  | first _ _ _ hleast => exact absurd (hleast.1.trans (Int.add_zero _)) (h _)
  | never | beyond => exact hresolve

theorem ordered_of_dawns (h : ∀ k ≠ .now, Dawns clock k) : Ordered clock := by
  obtain ⟨_, yesterday, hy, hycalendar, hyesterday⟩ := h .yesterday nofun
  obtain ⟨_, today, ht, htcalendar, htoday⟩ := h .today nofun
  obtain ⟨_, tomorrow, hm, hmcalendar, htomorrow⟩ := h .tomorrow nofun
  have hyequal := resolve_of_begins hy hycalendar hyesterday
  have htequal := resolve_of_begins ht htcalendar htoday
  have hmequal := resolve_of_begins hm hmcalendar htomorrow
  rw [(number_of_ofNumber? hy).2] at hyesterday
  rw [(number_of_ofNumber? ht).2] at htoday
  rw [(number_of_ofNumber? hm).2] at htomorrow
  refine ⟨?_, ?_, ?_⟩
  · have hlt := hyesterday.lt htoday (by omega)
    simp [hyequal, htequal, Instant.order, Int.compare_eq_lt.mpr hlt]
  · have hle := htoday.le_of_dayAt (today_number clock).le
    rw [htequal]
    rcases Int.lt_or_eq_of_le hle with hlt | rfl
    · simp [Instant.order, Clock.now, Int.compare_eq_lt.mpr hlt]
    · simp [Instant.order, Clock.now, Nat.compare_ne_gt]
  · have hlt := htomorrow.lt_of_dayAt (s := clock.second) (by rw [← today_number]; omega)
    simp [hmequal, Instant.order, Clock.now, Int.compare_eq_lt.mpr hlt]

theorem exists_day {n : Int} (hmin : Date.number ⟨Date.minYear, 1, 1⟩ < n)
    (hmax : n + 1 < Date.number ⟨Date.maxYear + 1, 1, 1⟩) :
    ∃ day, Date.ofNumber? n = some day ∧ HasMidnights clock day := by
  have hvalid : (Date.ofNumber n).isValid := Date.isValid_ofNumber (by omega) (by omega)
  refine ⟨_, if_pos hvalid, fun t ht => ?_⟩
  refine clock.zone.onCalendar_of_wallAt hmin hmax ?_
  rw [ht, Date.number_ofNumber, WallTime.day_of_midnight]

theorem hasMidnights_of_year (hmin : Date.minYear < clock.today.year)
    (hmax : clock.today.year < Date.maxYear) (hk : k ≠ .now) :
    ∃ day, day? clock k = some day ∧ HasMidnights clock day := by
  have htoday : clock.today = .ofNumber (clock.zone.dayAt clock.second) := rfl
  obtain ⟨hfirst, hlast⟩ := Zone.day_on_calendar hmin hmax htoday
  rw [← today_number] at hfirst hlast
  cases k with
  | now => exact absurd rfl hk
  | today | yesterday | tomorrow => exact exists_day (by omega) (by omega)

theorem resolve_bounds (clock : Clock) : Bounds clock where
  now := rfl
  begins _ _ hk hcalendar _ h := ⟨resolve_of_begins hk hcalendar h, h.isLeast⟩
  shows _ _ hk hcalendar _ := resolve_of_shows hk hcalendar
  skips _ _ := resolve_of_skips
  order := ordered_of_dawns
  calendar hmin hmax _ := hasMidnights_of_year hmin hmax
  keeps _ hzone h := h.begins hzone
  keepsOrder _ hzone h hmin hmax := by
    refine ordered_of_dawns fun k hk => ?_
    obtain ⟨day, hday, hcalendar⟩ := hasMidnights_of_year hmin hmax hk
    obtain ⟨t, ht⟩ := h.begins hzone day.number
    exact ⟨day, t, hday, hcalendar, ht⟩

/-- Where a change skips the midnight of tomorrow, tomorrow is the present
moment. The day begins later all the same, at half past midnight. -/
theorem tomorrow_skipped :
    let rule := ZoneRule.yearly (-10800) (-7200) ⟨3, 2, 6, 84600⟩ ⟨11, 1, 0, 18000⟩
    let clock : Clock := ⟨1773460800, 5, rule.zone (by decide)⟩
    resolve clock .tomorrow = clock.now ∧
      clock.zone.dayAt 1773541800 = clock.today.number + 1 ∧
      clock.zone.dayAt 1773541799 = clock.today.number := by
  decide +kernel

end Keyword

end LineFilter
