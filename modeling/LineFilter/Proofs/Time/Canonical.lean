import LineFilter.Proofs.Script.DateWord
import LineFilter.Proofs.Time.Timestamp

/-!
# What timestamps mean

Both tables read a timestamp as its own fields: in universal time as that very
instant, in local time as the first instant at which clocks of the zone show them,
if they ever do. A date alone is one for columns only, and month and day with a `T` are
that day of the present year in a script. With a `T` each of them is one word of
a script.
-/

namespace LineFilter

open LayoutItem Layout

variable {clock : Clock} {t : Timestamp} {d : Date} {date : DateForm} {time : TimeForm}
  {table : List Layout}

-- ---------------------------------------------------------------------------
-- Texts without white space
-- ---------------------------------------------------------------------------

namespace DateForm

@[simp] theorem unbroken_monthDay : (date.monthDay d).Unbroken := by simp [monthDay]

@[simp] theorem unbroken_text : (date.text d).Unbroken := by simp [text]

end DateForm

theorem Timestamp.unbroken_text : (t.text date time).Unbroken := by
  have hmarks : ¬ isBlank ':' ∧ ¬ isBlank '.' ∧ ¬ isBlank 'T' ∧ ¬ isBlank 'Z' := by decide
  cases time with
  | universal => simp [text, clockText, hourMinuteSecond, hourMinute, hmarks]
  | upTo precision =>
    cases precision <;> simp [text, clockText, hourMinuteSecond, hourMinute, hmarks]

-- ---------------------------------------------------------------------------
-- Readings
-- ---------------------------------------------------------------------------

namespace Timestamp

theorem layout_mem (ht : table ∈ [literals, columns]) : time.layout date ∈ table := by
  simp only [List.mem_cons, List.not_mem_nil, or_false] at ht
  cases time with
  | universal => rcases ht with rfl | rfl <;> cases date <;> decide
  | upTo precision => rcases ht with rfl | rfl <;> cases date <;> cases precision <;> decide

theorem readFirst?_text (ht : table ∈ [literals, columns]) :
    readFirst? table clock (t.text date time) = (time.layout date).read? clock (t.text date time) :=
  readFirst?_of_readAll ht (layout_mem ht) unbroken_text readAll_text

theorem readFirst?_upTo (ht : table ∈ [literals, columns]) (precision : Precision) :
    readFirst? table clock (t.text date (.upTo precision)) =
      clock.zone.instant? (t.wall (.upTo precision)) := by
  rw [readFirst?_text ht, read?_of_local rfl, wall?_text]
  rfl

theorem readFirst?_universal (ht : table ∈ [literals, columns]) :
    readFirst? table clock (t.text date .universal) =
      some ⟨(t.wall .universal).count, t.milli * 1000000, 0⟩ := by
  rw [readFirst?_text ht, read?, wall?_text, Option.bind_eq_bind, Option.bind_some]
  exact Instant.ofWall?_zero onClock_wall

end Timestamp

namespace DateForm

theorem columns_text (hd : d.Written) :
    readFirst? columns clock (date.text d) = clock.zone.instant? (.midnight d) := by
  have hmem : localTime date.items .day ∈ columns := by cases date <;> decide
  rw [readFirst?_of_readAll (by simp) hmem unbroken_text (readAll_text hd),
    read?_of_local rfl, wall?_text hd]
  rfl

/-- Every layout of literals has a `T`. -/
theorem literals_text (hd : d.Written) :
    readFirst? literals clock (date.text d) = none := by
  have hapart : ∀ layout ∈ literals, apart date.items layout.items := by cases date <;> decide
  rw [readFirst?, Text.squeeze_of_unbroken unbroken_text, List.findSome?_eq_none_iff]
  intro layout hl
  refine Option.eq_none_iff_forall_ne_some.mpr fun i hi => ?_
  exact not_take_of_apart (hapart layout hl) ⟨_, _, readAll_text hd⟩ (take_of_read? hi)

theorem literals_yearless (hd : d.isValid) :
    readFirst? literals clock (date.monthDay d ++ ['T']) =
      if (⟨clock.today.year, d.month, d.day⟩ : Date).isValid then
        clock.zone.instant? (.midnight ⟨clock.today.year, d.month, d.day⟩)
      else none := by
  have hmem : thisYear (date.monthDayItems ++ timeMark) .day ∈ literals := by cases date <;> decide
  have hunbroken : (date.monthDay d ++ ['T']).Unbroken := by
    simp
    decide
  rw [readFirst?_of_readAll (by simp) hmem hunbroken (readAll_yearless hd),
    read?_of_local rfl, wall?_yearless hd]
  split_ifs <;> rfl

end DateForm

-- ---------------------------------------------------------------------------
-- Words
-- ---------------------------------------------------------------------------

theorem Timestamp.whole_clockText : Token.Whole true (t.clockText time) := by
  cases time with
  | universal => simp [clockText, hourMinuteSecond, hourMinute]
  | upTo precision => cases precision <;> simp [clockText, hourMinuteSecond, hourMinute]

theorem Timestamp.isDateWord_text (clock : Clock) : IsDateWord clock (t.text date time) := by
  rw [text, DateForm.text, List.append_assoc]
  apply isDateWord_padded clock (by decide)
  · cases date <;> simp [DateForm.mark, DateForm.monthDay, whole_clockText]
  · simp

theorem DateForm.isDateWord_monthDay (clock : Clock) :
    IsDateWord clock (date.monthDay d ++ ['T']) := by
  rw [monthDay, List.append_assoc]
  apply isDateWord_padded clock (by decide)
  · cases date <;> simp [mark]
  · simp

-- ---------------------------------------------------------------------------
-- Timestamps
-- ---------------------------------------------------------------------------

/-- What the texts of a timestamp mean. -/
structure Timestamp.Meaning (clock : Clock) (date : DateForm) (t : Timestamp) : Prop where
  universal : ∀ table ∈ [literals, columns], ∃ i,
    readFirst? table clock (t.text date .universal) = some i ∧ i.wall = t.wall .universal ∧
      i.offset = 0
  upTo : ∀ table ∈ [literals, columns], ∀ precision,
    clock.zone.Shows (t.wall (.upTo precision))
      (readFirst? table clock (t.text date (.upTo precision)))
  /-- The calendar lacks none of the instants that show them. -/
  onCalendar : ∀ time s, clock.zone.wallAt s = (t.wall time).count → Zone.OnCalendar s
  column : clock.zone.Shows (.midnight t.date) (readFirst? columns clock (date.text t.date))
  literal : readFirst? literals clock (date.text t.date) = none
  thisYear : (⟨clock.today.year, t.date.month, t.date.day⟩ : Date).isValid →
    clock.zone.Shows (.midnight ⟨clock.today.year, t.date.month, t.date.day⟩)
      (readFirst? literals clock (date.monthDay t.date ++ ['T']))
  /-- Nor does it lack those of the present year, unless that is its first or its last. -/
  thisYearOnCalendar : (⟨clock.today.year, t.date.month, t.date.day⟩ : Date).isValid →
    Date.minYear < clock.today.year → clock.today.year < Date.maxYear →
    ∀ s, clock.zone.wallAt s =
      (WallTime.midnight ⟨clock.today.year, t.date.month, t.date.day⟩).count → Zone.OnCalendar s
  notThisYear : ¬ (⟨clock.today.year, t.date.month, t.date.day⟩ : Date).isValid →
    readFirst? literals clock (date.monthDay t.date ++ ['T']) = none
  word : ∀ time, IsDateWord clock (t.text date time)
  monthDayWord : IsDateWord clock (date.monthDay t.date ++ ['T'])

theorem Timestamp.meaning (clock : Clock) (date : DateForm) (t : Timestamp) :
    Meaning clock date t where
  universal table ht := by
    refine ⟨_, readFirst?_universal ht, ?_, rfl⟩
    exact (Instant.wall_of_ofWall? onClock_wall (Instant.ofWall?_zero onClock_wall)).1
  upTo table ht precision := by
    rw [readFirst?_upTo ht]
    exact Zone.shows_instant? onClock_wall
  onCalendar _ _ := Zone.onCalendar_of_year onClock_wall year_wall.1 year_wall.2
  column := by
    rw [DateForm.columns_text t.written]
    exact Zone.shows_instant? (WallTime.onClock_midnight.mpr t.written.isValid)
  literal := DateForm.literals_text t.written
  thisYear hvalid := by
    rw [DateForm.literals_yearless t.written.isValid, if_pos hvalid]
    exact Zone.shows_instant? (WallTime.onClock_midnight.mpr hvalid)
  thisYearOnCalendar hvalid hmin hmax _ :=
    Zone.onCalendar_of_year (WallTime.onClock_midnight.mpr hvalid) hmin hmax
  notThisYear hvalid := by
    rw [DateForm.literals_yearless t.written.isValid, if_neg hvalid]
  word _ := isDateWord_text clock
  monthDayWord := DateForm.isDateWord_monthDay clock

end LineFilter
