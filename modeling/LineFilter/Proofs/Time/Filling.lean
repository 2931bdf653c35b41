import LineFilter.Proofs.Time.Agreement
import LineFilter.Proofs.Time.Walls
import LineFilter.Time.ZoneRule

/-!
# What a layout fills in

A text says some of the fields of a date; its layout takes the others from the
present date, or takes zero for the parts of a time that it has no field for.
What every piece stores is kept by the pieces behind it, so it still stands in
the wall time that is read, and the instant of that wall time shows it.
-/

namespace LineFilter

-- ---------------------------------------------------------------------------
-- What pieces store
-- ---------------------------------------------------------------------------

namespace LayoutItem

variable {item : LayoutItem} {items : List LayoutItem} {f g : DateFields} {text rest : Text}

/-- A name that begins with the first three letters of a text, and its place. -/
def Names (names : List Text) (text : Text) (n : Nat) : Prop :=
  ∃ name, names[n]? = some name ∧ (text.take 3).map Char.toLower = name.take 3

/-- What a piece at the front of a text adds to the fields. -/
inductive Stores (text : Text) (f : DateFields) : LayoutItem → DateFields → Prop
  | number {field : NumberField} {n : Nat} : field.admits n →
      Stores text f (.number field) (field.store f n)
  | negative {n : Nat} : Stores text f (.number .year) { f with year := some (-(n : Int)) }
  | weekday {item : LayoutItem} {n : Nat} : item.names = weekdayNames →
      Names weekdayNames text n → Stores text f item { f with weekday := some n }
  | month {item : LayoutItem} {n : Nat} : item.names = monthNames → Names monthNames text n →
      Stores text f item { f with month := some (n + 1) }
  | nano {n : Nat} : Stores text f .milliseconds { f with nano := some n }
  | nothing {item : LayoutItem} : item.names = [] → Stores text f item f

theorem names_of_readName {names : List Text} {full : Bool} {n : Nat}
    (hnames : ∀ name ∈ names, (name.take 3).length = 3)
    (h : readName names full text = some (n, rest)) : Names names text n := by
  obtain ⟨⟨name, index⟩, hmem, hread⟩ := List.exists_of_findSome?_eq_some h
  obtain ⟨left, hleft, heq⟩ := Option.map_eq_some_iff.mp hread
  cases heq
  have htake := dropName_eq_some hleft
  rw [hnames name (List.fst_mem_of_mem_zipIdx hmem)] at htake
  exact ⟨name, List.mk_mem_zipIdx_iff_getElem?.mp hmem, htake⟩

theorem stores_of_number {field : NumberField} (h : field.read f text = some (g, rest)) :
    Stores text f (.number field) g := by
  unfold NumberField.read at h
  split at h
  · obtain ⟨⟨n, left⟩, -, heq⟩ := Option.map_eq_some_iff.mp h
    cases heq
    exact .negative
  · obtain ⟨⟨n, left⟩, -, heq⟩ := Option.map_eq_some_iff.mp h
    cases heq
    exact .number rfl
  · simp only [Option.bind_eq_bind, Option.bind_eq_some_iff] at h
    obtain ⟨⟨n, left⟩, -, h⟩ := h
    split_ifs at h with hadmits
    cases h
    exact .number hadmits

theorem stores_of_read (h : item.read f text = some (g, rest)) : Stores text f item g := by
  cases item with
  | number field => exact stores_of_number h
  | literal c =>
    cases text with
    | nil => simp [read] at h
    | cons d ds =>
      obtain ⟨-, rfl, -⟩ : d = c ∧ f = g ∧ ds = rest := by simpa [read] using h
      exact .nothing rfl
  | space | zoneName =>
    obtain ⟨rfl, -⟩ : f = g ∧ _ := by simpa [read] using h
    exact .nothing rfl
  | weekday | fullWeekday =>
    obtain ⟨⟨n, left⟩, hread, heq⟩ := Option.map_eq_some_iff.mp h
    cases heq
    exact .weekday rfl (names_of_readName (by decide) hread)
  | month | fullMonth =>
    obtain ⟨⟨n, left⟩, hread, heq⟩ := Option.map_eq_some_iff.mp h
    cases heq
    exact .month rfl (names_of_readName (by decide) hread)
  | milliseconds =>
    simp only [read] at h
    split at h
    · obtain ⟨n, -, heq⟩ := Option.map_eq_some_iff.mp h
      cases heq
      exact .nano
    · simp at h
    · cases h
      exact .nothing rfl

/-- What every piece keeps, the pieces keep together. -/
theorem readAll_keeps {P : DateFields → Prop}
    (hkeep : ∀ item ∈ items, ∀ text f g, Stores text f item g → P f → P g)
    (h : readAll f text items = some g) (hf : P f) : P g := by
  induction items generalizing f text with
  | nil =>
    rw [readAll] at h
    split_ifs at h
    cases h
    exact hf
  | cons item items ih =>
    simp only [readAll, Option.bind_eq_bind, Option.bind_eq_some_iff] at h
    obtain ⟨⟨f', rest⟩, hread, h⟩ := h
    exact ih (fun i hi => hkeep i (List.mem_cons_of_mem _ hi)) h
      (hkeep item List.mem_cons_self text f f' (stores_of_read hread) hf)

theorem second_readAll (hs : .number .second ∉ items) (h : readAll f text items = some g) :
    g.second = f.second := by
  refine readAll_keeps (P := fun g => g.second = f.second) ?_ h rfl
  rintro item hitem text f' g' hstores hf'
  cases hstores with
  | @number field n hn => cases field <;> first | exact hf' | exact absurd hitem hs
  | _ => exact hf'

theorem weekday_readAll (hw : ∀ item ∈ items, item.names ≠ weekdayNames)
    (h : readAll f text items = some g) : g.weekday = f.weekday := by
  refine readAll_keeps (P := fun g => g.weekday = f.weekday) ?_ h rfl
  rintro item hitem text f' g' hstores hf'
  cases hstores with
  | @number field n hn => cases field <;> exact hf'
  | weekday hnames => exact absurd hnames (hw item hitem)
  | _ => exact hf'

/-- A layout that names a day of the week does so first, and nothing changes it. -/
theorem names_readAll (hw : ∀ item ∈ items.tail, item.names ≠ weekdayNames)
    (hnames : ∃ item ∈ items, item.names = weekdayNames) (h : readAll f text items = some g) :
    ∃ n ∈ g.weekday, Names weekdayNames text n := by
  obtain ⟨item, hitem, hweekday⟩ := hnames
  cases items with
  | nil => simp at hitem
  | cons first items =>
    obtain rfl : item = first := by
      rcases List.mem_cons.mp hitem with rfl | htail
      · rfl
      · exact absurd hweekday (hw item htail)
    simp only [readAll, Option.bind_eq_bind, Option.bind_eq_some_iff] at h
    obtain ⟨⟨f', rest⟩, hread, h⟩ := h
    rw [weekday_readAll hw h]
    cases stores_of_read hread with
    | weekday _ hn => exact ⟨_, rfl, hn⟩
    | number | negative | nano => cases hweekday
    | month hmonth => exact absurd (hweekday.symm.trans hmonth) (by decide)
    | nothing hnone => exact absurd (hweekday.symm.trans hnone) (by decide)

end LayoutItem

-- ---------------------------------------------------------------------------
-- Fields and the wall time
-- ---------------------------------------------------------------------------

namespace DateFields

variable {f g : DateFields} {d : Date} {w : WallTime}

/-- The parts of the time are those of a clock, or of a leap second. -/
structure InRange (f : DateFields) : Prop where
  hour : ∀ n ∈ f.hour, n ≤ 23
  minute : ∀ n ∈ f.minute, n ≤ 59
  second : ∀ n ∈ f.second, n ≤ 60

theorem inRange_none : none.InRange := ⟨nofun, nofun, nofun⟩

theorem InRange.stores {item : LayoutItem} {text : Text} (h : item.Stores text f g)
    (hf : f.InRange) : g.InRange := by
  obtain ⟨hhour, hminute, hsecond⟩ := hf
  cases h with
  | @number field n hn =>
    cases field with
    | hour => exact ⟨by simpa [NumberField.store, NumberField.admits] using hn, hminute, hsecond⟩
    | minute => exact ⟨hhour, by simpa [NumberField.store, NumberField.admits] using hn, hsecond⟩
    | second => exact ⟨hhour, hminute, by simpa [NumberField.store, NumberField.admits] using hn⟩
    | _ => exact ⟨hhour, hminute, hsecond⟩
  | _ => exact ⟨hhour, hminute, hsecond⟩

theorem date?_eq_some (h : f.date? = some d) :
    d.isValid ∧ f.fullYear? = some d.year ∧ f.month = some d.month ∧ f.day = some d.day ∧
      ∀ n ∈ f.weekday, d.weekday = n := by
  simp only [date?, Option.bind_eq_bind, Option.bind_eq_some_iff] at h
  obtain ⟨year, hyear, month, hmonth, day, hday, h⟩ := h
  split_ifs at h with hvalid
  cases h
  simp only [Bool.and_eq_true, Option.all_eq_true, decide_eq_true_eq] at hvalid
  exact ⟨hvalid.1, hyear, hmonth, hday, fun n hn => (hvalid.2 n hn).symm⟩

theorem wall?_eq_some (h : f.wall? = some w) :
    f.date? = some w.date ∧ ∃ hour minute, f.hour = some hour ∧ f.minute = some minute ∧
      w.second = hour * 3600 + minute * 60 +
        (if f.second.getD 0 = 60 then 59 else f.second.getD 0) ∧
      (f.second = .none → w.nano = 0) := by
  simp only [wall?, Option.bind_eq_bind, Option.bind_eq_some_iff] at h
  obtain ⟨date, hdate, hour, hhour, minute, hminute, h⟩ := h
  split at h
  · cases h
  · rename_i nano hfraction
    cases h
    refine ⟨hdate, hour, minute, hhour, hminute, rfl, fun hsecond => ?_⟩
    cases hnano : f.nano with
    | none => simp [hsecond]
    | some n => exact absurd hnano (hfraction n hsecond)

/-- Without a second there is no fraction either. -/
theorem wall?_of_coarse (h : f.wall? = some w) (hs : f.second = .none) :
    ∃ hour minute, f.hour = some hour ∧ f.minute = some minute ∧
      w.second = hour * 3600 + minute * 60 ∧ w.nano = 0 := by
  obtain ⟨-, hour, minute, hhour, hminute, hsecond, hnano⟩ := wall?_eq_some h
  exact ⟨hour, minute, hhour, hminute, by simpa [hs] using hsecond, hnano hs⟩

theorem InRange.onClock (hf : f.InRange) (h : f.wall? = some w) : w.OnClock := by
  obtain ⟨hdate, hour, minute, hhour, hminute, hsecond, -⟩ := wall?_eq_some h
  have hhour := hf.hour hour hhour
  have hminute := hf.minute minute hminute
  have hlast : (if f.second.getD 0 = 60 then 59 else f.second.getD 0) ≤ 59 := by
    cases hs : f.second with
    | none => simp
    | some n =>
      have := hf.second n hs
      simp only [Option.getD_some]
      split <;> omega
  refine ⟨(date?_eq_some hdate).1, ?_⟩
  simp only [WallTime.secondsPerDay]
  omega

end DateFields

-- ---------------------------------------------------------------------------
-- Layouts
-- ---------------------------------------------------------------------------

/-- The parts of a time that a layout is too coarse for are zero. -/
def Precision.Clears (w : WallTime) : Precision → Prop
  | .day => w.hour = 0 ∧ w.minute = 0 ∧ w.secondOfMinute = 0 ∧ w.nano = 0
  | .hour => w.minute = 0 ∧ w.secondOfMinute = 0 ∧ w.nano = 0
  | .minute => w.secondOfMinute = 0 ∧ w.nano = 0
  | .second => True

/-- The same instant as clocks of a zone show it. -/
def Instant.shownIn (zone : Zone) (i : Instant) : Instant :=
  { i with offset := zone.offsetAt i.second }

namespace Layout

variable {layout : Layout} {clock : Clock} {text : Text} {today : Date} {f : DateFields}
  {w : WallTime} {d : Date} {i : Instant}

theorem second_filled (assumed : Assumed) (precision : Precision) :
    (fillTime (fillDate today f assumed) precision).second = f.second := by
  cases assumed <;> cases precision <;> rfl

theorem weekday_filled (assumed : Assumed) (precision : Precision) :
    (fillTime (fillDate today f assumed) precision).weekday = f.weekday := by
  cases assumed <;> cases precision <;> rfl

theorem inRange_filled (hf : f.InRange) (assumed : Assumed) (precision : Precision) :
    (fillTime (fillDate today f assumed) precision).InRange := by
  have hdate : (fillDate today f assumed).InRange := by
    cases assumed <;> exact ⟨hf.hour, hf.minute, hf.second⟩
  cases precision with
  | day => exact ⟨by simp [fillTime], by simp [fillTime], hdate.second⟩
  | hour => exact ⟨hdate.hour, by simp [fillTime], hdate.second⟩
  | minute | second => exact hdate

theorem clears_of_coarse {precision : Precision} (hs : (fillTime f precision).second = none)
    (h : (fillTime f precision).wall? = some w) : precision.Clears w := by
  obtain ⟨hour, minute, hhour, hminute, hsecond, hnano⟩ := DateFields.wall?_of_coarse h hs
  have hzero : w.secondOfMinute = 0 := by
    simp only [WallTime.secondOfMinute, hsecond, hnano]
    omega
  cases precision with
  | day =>
    obtain ⟨rfl, rfl⟩ : 0 = hour ∧ 0 = minute := by simpa [fillTime] using And.intro hhour hminute
    simp [Precision.Clears, WallTime.hour, WallTime.minute, hsecond, hnano, hzero]
  | hour =>
    obtain rfl : 0 = minute := by simpa [fillTime] using hminute
    refine ⟨?_, hzero, hnano⟩
    simp only [WallTime.minute, hsecond]
    omega
  | minute => exact ⟨hzero, hnano⟩
  | second => trivial

theorem date?_filled (assumed : Assumed) (precision : Precision) :
    (fillTime (fillDate today f assumed) precision).date? = (fillDate today f assumed).date? := by
  cases precision <;> rfl

theorem year_of_fillDate (h : (fillDate today f .year).date? = some d) : d.year = today.year := by
  obtain ⟨-, hyear, -⟩ := DateFields.date?_eq_some h
  exact (Option.some.inj hyear).symm

theorem date_of_fillDate (h : (fillDate today f .date).date? = some d) : d = today := by
  obtain ⟨-, hyear, hmonth, hday, -⟩ := DateFields.date?_eq_some h
  cases d
  cases today
  cases hyear
  cases hmonth
  cases hday
  rfl

theorem onClock_of_wall? (h : layout.wall? today text = some w) : w.OnClock := by
  simp only [wall?, Option.bind_eq_bind, Option.bind_eq_some_iff] at h
  obtain ⟨f, hf, h⟩ := h
  have hrange : f.InRange :=
    LayoutItem.readAll_keeps (fun _ _ _ _ _ => DateFields.InRange.stores) hf DateFields.inRange_none
  exact (inRange_filled hrange _ _).onClock h

/-- The instant that is read shows the wall time, on the clocks that are meant. -/
theorem shows_of_read? (h : layout.read? clock text = some i) :
    layout.wall? clock.today text = some i.wall ∧ (layout.isLocal → i.shownIn clock.zone = i) ∧
      (¬ layout.isLocal → i.offset = 0) := by
  simp only [read?, Option.bind_eq_bind, Option.bind_eq_some_iff] at h
  obtain ⟨w, hwall, hi⟩ := h
  have hclock := onClock_of_wall? hwall
  split_ifs at hi with hlocal
  · have hshows : clock.zone.Shows w (some i) := hi ▸ Zone.shows_instant? hclock
    cases hshows with
    | first hshown hoffset _ _ =>
      refine ⟨by rw [hwall, hshown], fun _ => ?_, fun h => absurd hlocal h⟩
      rw [Instant.shownIn, ← hoffset]
  · obtain ⟨hshown, hoffset⟩ := Instant.wall_of_ofWall? hclock hi
    exact ⟨by rw [hwall, hshown], fun h => absurd h hlocal, fun _ => hoffset⟩

/-- What a layout reads: the instant shows what is written and, for the rest,
what the layout fills in. -/
structure Fills (layout : Layout) (clock : Clock) (text : Text) (i : Instant) : Prop where
  wall : layout.wall? clock.today text = some i.wall
  time : layout.precision.Clears i.wall
  year : layout.assumed = .year → i.wall.date.year = clock.today.year
  date : layout.assumed = .date → i.wall.date = clock.today
  universal : ¬ layout.isLocal → i.offset = 0
  zone : layout.isLocal → i.shownIn clock.zone = i
  weekday : (∃ item ∈ layout.items, item.names = weekdayNames) →
    LayoutItem.Names weekdayNames text i.wall.date.weekday

/-- Seconds are read only where the precision says so, and a day of the week
only at the front. -/
structure Regular (layout : Layout) : Prop where
  coarse : layout.precision ≠ .second → .number .second ∉ layout.items
  weekday : ∀ item ∈ layout.items.tail, item.names ≠ weekdayNames

theorem regular_of_mem (h : layout ∈ literals ++ columns) : layout.Regular where
  coarse := by
    have : ∀ layout ∈ literals ++ columns,
      layout.precision ≠ .second → .number .second ∉ layout.items := by decide
    exact this layout h
  weekday := by
    have : ∀ layout ∈ literals ++ columns,
      ∀ item ∈ layout.items.tail, item.names ≠ weekdayNames := by decide
    exact this layout h

theorem Regular.fills (hr : layout.Regular) (h : layout.read? clock text = some i) :
    layout.Fills clock text i := by
  obtain ⟨hwall, hlocal, huniversal⟩ := shows_of_read? h
  have hread := hwall
  simp only [wall?, Option.bind_eq_bind, Option.bind_eq_some_iff] at hread
  obtain ⟨f, hf, hfields⟩ := hread
  have hdate := (DateFields.wall?_eq_some hfields).1
  have hfilled := hdate
  rw [date?_filled] at hfilled
  refine ⟨hwall, ?_, fun ha => ?_, fun ha => ?_, huniversal, hlocal, fun hnames => ?_⟩
  -- A coarse layout has no field for seconds, so none have been stored.
  · by_cases hp : layout.precision = .second
    · rw [hp]
      trivial
    · refine clears_of_coarse ?_ hfields
      rw [second_filled, LayoutItem.second_readAll (hr.coarse hp) hf]
      rfl
  · rw [ha] at hfilled
    exact year_of_fillDate hfilled
  · rw [ha] at hfilled
    exact date_of_fillDate hfilled
  · obtain ⟨n, hn, hname⟩ := LayoutItem.names_readAll hr.weekday hnames hf
    obtain ⟨-, -, -, -, hweekday⟩ := DateFields.date?_eq_some hdate
    rw [weekday_filled] at hweekday
    rwa [hweekday n hn]

theorem read?_fills (hl : layout ∈ literals ++ columns) (h : layout.read? clock text = some i) :
    layout.Fills clock text i :=
  (regular_of_mem hl).fills h

/-- In New York, in 2026: the fifth of January is a Monday, in winter. -/
theorem read?_fills_thisYear :
    let rule := ZoneRule.yearly (-18000) (-14400) ⟨3, 2, 0, 7200⟩ ⟨11, 1, 0, 7200⟩
    let clock : Clock := ⟨1773500966, 0, rule.zone (by decide)⟩
    (thisYear (longTime .weekday) .second).Fills clock "Mon Jan 5 15:04:05".toList
      ⟨1767643445, 0, -18000⟩ :=
  read?_fills (by decide) (by decide +kernel)

end Layout

end LineFilter
