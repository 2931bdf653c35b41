import LineFilter.Proofs.Text.Padded
import LineFilter.Proofs.Time.Coercion
import LineFilter.Proofs.Time.Filling

/-!
# Timestamps

The plain way to write a date and a time: every part with all of its digits,
with dashes between those of the date or without them. Each such text is read by
the layout that was made for it, as the wall time with these parts and zero for
the ones left out, and by every other layout of a table not at all or as the
same.
-/

namespace LineFilter

open LayoutItem Layout

-- ---------------------------------------------------------------------------
-- The texts of timestamps
-- ---------------------------------------------------------------------------

/-- A date of the calendar whose year has four digits. -/
structure Date.Written (d : Date) : Prop where
  isValid : d.isValid
  year_nonneg : 0 ≤ d.year
  year_le : d.year ≤ 9999

/-- A date with a time of day to the millisecond. -/
structure Timestamp where
  date : Date
  hour : Nat
  minute : Nat
  second : Nat
  milli : Nat
  written : date.Written
  hour_le : hour ≤ 23
  minute_le : minute ≤ 59
  second_le : second ≤ 59
  milli_le : milli ≤ 999

inductive DateForm
  | dashed
  | compact
deriving DecidableEq

namespace DateForm

def mark : DateForm → Text
  | .dashed => ['-']
  | .compact => []

/-- `MM-DD` or `MMDD`. -/
def monthDay (form : DateForm) (d : Date) : Text :=
  Text.padded 2 d.month ++ (form.mark ++ Text.padded 2 d.day)

/-- `YYYY-MM-DD` or `YYYYMMDD`. -/
def text (form : DateForm) (d : Date) : Text :=
  Text.padded 4 d.year.toNat ++ (form.mark ++ form.monthDay d)

def monthDayItems (form : DateForm) : List LayoutItem :=
  number .month :: (form.mark.map literal ++ [number .day])

def items (form : DateForm) : List LayoutItem :=
  number .year :: (form.mark.map literal ++ form.monthDayItems)

end DateForm

inductive TimeForm
  /-- Local time up to a part. -/
  | upTo (precision : Precision)
  /-- Universal time to the millisecond. -/
  | universal
deriving DecidableEq

namespace TimeForm

def items : TimeForm → List LayoutItem
  | .upTo .day => []
  | .upTo .hour => [number .hour]
  | .upTo .minute => hourMinute
  | .upTo .second => hourMinuteSecond
  | .universal => hourMinuteSecond ++ [milliseconds, literal 'Z']

/-- The layout made for a form. -/
def layout (date : DateForm) : TimeForm → Layout
  | .upTo precision => localTime (date.items ++ (timeMark ++ (upTo precision).items)) precision
  | .universal => Layout.universal (date.items ++ (timeMark ++ universal.items))

end TimeForm

namespace Timestamp

/-- `HH:MM`. -/
def hourMinute (t : Timestamp) : Text := Text.padded 2 t.hour ++ ':' :: Text.padded 2 t.minute

/-- `HH:MM:SS`. -/
def hourMinuteSecond (t : Timestamp) : Text := t.hourMinute ++ ':' :: Text.padded 2 t.second

/-- The part behind the `T`. -/
def clockText (t : Timestamp) : TimeForm → Text
  | .upTo .day => []
  | .upTo .hour => Text.padded 2 t.hour
  | .upTo .minute => t.hourMinute
  | .upTo .second => t.hourMinuteSecond
  | .universal => t.hourMinuteSecond ++ '.' :: (Text.padded 3 t.milli ++ ['Z'])

def text (t : Timestamp) (date : DateForm) (time : TimeForm) : Text :=
  date.text t.date ++ 'T' :: t.clockText time

/-- The parts that a form writes, and zero for the others. -/
def wall (t : Timestamp) : TimeForm → WallTime
  | .upTo .day => .midnight t.date
  | .upTo .hour => ⟨t.date, t.hour * 3600, 0⟩
  | .upTo .minute => ⟨t.date, t.hour * 3600 + t.minute * 60, 0⟩
  | .upTo .second => ⟨t.date, t.hour * 3600 + t.minute * 60 + t.second, 0⟩
  | .universal =>
    ⟨t.date, t.hour * 3600 + t.minute * 60 + t.second, t.milli * 1000000⟩

end Timestamp

-- ---------------------------------------------------------------------------
-- Reading parts
-- ---------------------------------------------------------------------------

namespace LayoutItem

variable {f : DateFields} {rest : Text} {items : List LayoutItem}

@[simp] theorem readAll_nil : readAll f [] [] = some f := rfl

@[simp] theorem readAll_literal (c : Char) :
    readAll f (c :: rest) (literal c :: items) = readAll f rest items := by
  simp [readAll, read]

@[simp] theorem readAll_mark (form : DateForm) :
    readAll f (form.mark ++ rest) (form.mark.map literal ++ items) = readAll f rest items := by
  cases form <;> simp [DateForm.mark]

/-- A field reads a number that fills its width. -/
theorem read_padded (field : NumberField) {n : Nat} (hn : n < 10 ^ field.width)
    (ha : field.admits n) :
    field.read f (Text.padded field.width n ++ rest) = some (field.store f n, rest) := by
  have hw : 0 < field.width := by cases field <;> decide
  obtain ⟨d, ds, hp, hd⟩ := Text.padded_eq_cons field.width n
  have hblanks : Text.dropBlanks (Text.padded field.width n ++ rest) =
      Text.padded field.width n ++ rest := by
    rw [hp]
    exact List.dropWhile_cons_of_neg (by simp [Text.isBlank_of_isDigit hd])
  unfold NumberField.read
  split
  · rename_i hsign
    rw [hblanks, hp] at hsign
    cases hsign
    exact absurd hd (by decide)
  · rename_i hsign
    rw [hblanks, hp] at hsign
    cases hsign
    exact absurd hd (by decide)
  · rw [hblanks, NumberField.digits_padded hw hn]
    simp [ha]

theorem readAll_padded (field : NumberField) {width n : Nat} (hn : n < 10 ^ width)
    (hw : field.width = width) (ha : field.admits n) :
    readAll f (Text.padded width n ++ rest) (number field :: items) =
      readAll (field.store f n) rest items := by
  subst hw
  rw [readAll, read, read_padded field hn ha]
  rfl

theorem readAll_milliseconds {n : Nat} (hn : n ≤ 999) :
    readAll f ('.' :: (Text.padded 3 n ++ rest)) (milliseconds :: items) =
      readAll { f with nano := some (n * 1000000) } rest items := by
  have hlt : n < 10 ^ 3 := by omega
  have hlength := Text.length_padded (by decide) hlt
  obtain ⟨a, b, c, hp⟩ := List.length_eq_three.mp hlength
  have hread : Digits.read? 10 [a, b, c] = some n := by
    rw [← hp, Digits.read?_digits (fun _ => Text.isDigit_padded) (by simp [hp]),
      Text.spelled_padded]
  simp [readAll, read, hp, hread]

variable {date : DateForm} {d : Date}

theorem readAll_monthDay (hd : d.isValid) :
    readAll f (date.monthDay d ++ rest) (date.monthDayItems ++ items) =
      readAll { f with month := some d.month, day := some d.day } rest items := by
  obtain ⟨-, -, hmonth, hday, -⟩ := Date.isValid_iff.mp hd
  have hmonth' := Date.month_le hd
  have hday' := Date.day_le hd
  have hmonths : d.month < 10 ^ 2 := by omega
  have hdays : d.day < 10 ^ 2 := by omega
  simp only [DateForm.monthDay, DateForm.monthDayItems, List.append_assoc, List.cons_append,
    List.nil_append]
  rw [readAll_padded .month hmonths rfl (by simp [NumberField.admits]; omega), readAll_mark,
    readAll_padded .day hdays rfl (by simp [NumberField.admits]; omega)]
  rfl

theorem readAll_date (hd : d.Written) :
    readAll f (date.text d ++ rest) (date.items ++ items) =
      readAll { f with year := some d.year, month := some d.month, day := some d.day }
        rest items := by
  have hyear := hd.year_le
  have hyears : d.year.toNat < 10 ^ 4 := by omega
  simp only [DateForm.text, DateForm.items, List.append_assoc, List.cons_append]
  rw [readAll_padded .year hyears rfl rfl, readAll_mark, readAll_monthDay hd.isValid]
  simp [NumberField.store, Int.toNat_of_nonneg hd.year_nonneg]

end LayoutItem

namespace Timestamp

variable {t : Timestamp} {date : DateForm} {time : TimeForm} {f : DateFields}

/-- The fields with the time of a form. -/
def store (t : Timestamp) (f : DateFields) : TimeForm → DateFields
  | .upTo .day => f
  | .upTo .hour => { f with hour := some t.hour }
  | .upTo .minute => { f with hour := some t.hour, minute := some t.minute }
  | .upTo .second =>
    { f with hour := some t.hour, minute := some t.minute, second := some t.second }
  | .universal =>
    { f with
      hour := some t.hour, minute := some t.minute, second := some t.second
      nano := some (t.milli * 1000000) }

section

variable (t f)
variable (rest : Text) (items : List LayoutItem)

theorem readAll_hour : readAll f (Text.padded 2 t.hour ++ rest) (number .hour :: items) =
    readAll { f with hour := some t.hour } rest items := by
  have hhour := t.hour_le
  have hhours : t.hour < 10 ^ 2 := by omega
  rw [readAll_padded .hour hhours rfl (by simpa [NumberField.admits])]
  rfl

theorem readAll_hourMinute : readAll f (t.hourMinute ++ rest) (Layout.hourMinute ++ items) =
    readAll { f with hour := some t.hour, minute := some t.minute } rest items := by
  have hminute := t.minute_le
  have hminutes : t.minute < 10 ^ 2 := by omega
  simp only [hourMinute, Layout.hourMinute, List.append_assoc, List.cons_append, List.nil_append]
  rw [readAll_hour, readAll_literal,
    readAll_padded .minute hminutes rfl (by simpa [NumberField.admits])]
  rfl

theorem readAll_hourMinuteSecond :
    readAll f (t.hourMinuteSecond ++ rest) (Layout.hourMinuteSecond ++ items) =
      readAll { f with hour := some t.hour, minute := some t.minute, second := some t.second }
        rest items := by
  have hsecond := t.second_le
  have hseconds : t.second < 10 ^ 2 := by omega
  simp only [hourMinuteSecond, Layout.hourMinuteSecond, List.append_assoc, List.cons_append,
    List.nil_append]
  rw [readAll_hourMinute, readAll_literal, readAll_padded .second hseconds rfl]
  · rfl
  · simp [NumberField.admits]
    omega

end

theorem readAll_clock : readAll f (t.clockText time) time.items = some (t.store f time) := by
  cases time with
  | universal =>
    rw [clockText, TimeForm.items, readAll_hourMinuteSecond, readAll_milliseconds t.milli_le]
    simp [store]
  | upTo precision =>
    cases precision with
    | day => rfl
    | hour => simpa [clockText, TimeForm.items, store] using t.readAll_hour f [] []
    | minute => simpa [clockText, TimeForm.items, store] using t.readAll_hourMinute f [] []
    | second => simpa [clockText, TimeForm.items, store] using t.readAll_hourMinuteSecond f [] []

theorem readAll_text : readAll .none (t.text date time) (time.layout date).items =
    some (t.store { DateFields.none with
      year := some t.date.year, month := some t.date.month, day := some t.date.day } time) := by
  have hitems : (time.layout date).items = date.items ++ (timeMark ++ time.items) := by
    cases time <;> rfl
  rw [hitems, text, readAll_date t.written, timeMark,
    List.singleton_append, readAll_literal, readAll_clock]

theorem wall?_text (today : Date) :
    (time.layout date).wall? today (t.text date time) = some (t.wall time) := by
  have hvalid := t.written.isValid
  have hsecond : t.second ≠ 60 := by
    have := t.second_le
    omega
  rw [wall?, readAll_text]
  cases time with
  | universal =>
    simp [TimeForm.layout, Layout.universal, fillDate, fillTime, store, DateFields.none,
      DateFields.wall?, DateFields.date?, DateFields.fullYear?, wall, hvalid, hsecond]
  | upTo precision =>
    cases precision <;>
      simp [TimeForm.layout, localTime, fillDate, fillTime, store, DateFields.none,
        DateFields.wall?, DateFields.date?, DateFields.fullYear?, wall, WallTime.midnight, hvalid,
        hsecond]

theorem onClock_wall : (t.wall time).OnClock := by
  have h : (time.layout .dashed).wall? t.date (t.text .dashed time) = some (t.wall time) :=
    wall?_text t.date
  exact onClock_of_wall? h

theorem date_wall : (t.wall time).date = t.date := by
  cases time with
  | universal => rfl
  | upTo precision => cases precision <;> rfl

/-- Neither the first year of the calendar nor the last. -/
theorem year_wall : Date.minYear < (t.wall time).date.year ∧
    (t.wall time).date.year < Date.maxYear := by
  have hmin : Date.minYear < 0 ∧ 9999 < Date.maxYear := by decide
  have hyear := t.written.year_nonneg
  have hyear' := t.written.year_le
  rw [date_wall]
  omega

end Timestamp

-- ---------------------------------------------------------------------------
-- Dates alone, and dates without a year
-- ---------------------------------------------------------------------------

namespace DateForm

variable {date : DateForm} {d : Date}

theorem readAll_text (hd : d.Written) :
    readAll .none (date.text d) date.items = some { DateFields.none with
      year := some d.year, month := some d.month, day := some d.day } := by
  have h : readAll .none (date.text d ++ []) (date.items ++ []) = _ := readAll_date hd
  simpa using h

theorem readAll_yearless (hd : d.isValid) :
    readAll .none (date.monthDay d ++ ['T']) (date.monthDayItems ++ timeMark) =
      some { DateFields.none with month := some d.month, day := some d.day } := by
  rw [readAll_monthDay hd, timeMark, readAll_literal, readAll_nil]

theorem wall?_text (hd : d.Written) (today : Date) :
    (localTime date.items .day).wall? today (date.text d) = some (.midnight d) := by
  rw [wall?, localTime, readAll_text hd]
  simp [fillDate, fillTime, DateFields.none, DateFields.wall?, DateFields.date?,
    DateFields.fullYear?, WallTime.midnight, hd.isValid]

theorem wall?_yearless (hd : d.isValid) (today : Date) :
    (thisYear (date.monthDayItems ++ timeMark) .day).wall? today (date.monthDay d ++ ['T']) =
      if (⟨today.year, d.month, d.day⟩ : Date).isValid then
        some (.midnight ⟨today.year, d.month, d.day⟩)
      else none := by
  rw [wall?, thisYear, readAll_yearless hd]
  split_ifs with hvalid <;>
    simp [fillDate, fillTime, DateFields.none, DateFields.wall?, DateFields.date?,
      DateFields.fullYear?, WallTime.midnight, hvalid]

end DateForm

-- ---------------------------------------------------------------------------
-- Texts without white space
-- ---------------------------------------------------------------------------

namespace Text

variable {text left right : Text}

/-- Without white space. -/
def Unbroken (text : Text) : Prop := ∀ c ∈ text, ¬ isBlank c

@[simp] theorem unbroken_nil : Unbroken [] := nofun

@[simp] theorem unbroken_cons {c : Char} : Unbroken (c :: text) ↔ ¬ isBlank c ∧ Unbroken text := by
  simp [Unbroken]

@[simp] theorem unbroken_append : Unbroken (left ++ right) ↔ Unbroken left ∧ Unbroken right := by
  simp only [Unbroken, List.mem_append]
  exact ⟨fun h => ⟨fun c hc => h c (.inl hc), fun c hc => h c (.inr hc)⟩,
    fun h c hc => hc.elim (h.1 c) (h.2 c)⟩

@[simp] theorem unbroken_padded (width n : Nat) : Unbroken (padded width n) :=
  fun _ hc => by simp [isBlank_of_isDigit (isDigit_padded hc)]

theorem squeeze_of_unbroken (h : Unbroken text) : text.squeeze = text := by
  cases text with
  | nil => simp [squeeze, words, runs, join]
  | cons c cs =>
    obtain ⟨hc, hcs⟩ := unbroken_cons.mp h
    have hcs : ∀ d ∈ cs, !isBlank d := by simpa [Unbroken] using hcs
    have hdrop : cs.dropWhile (!isBlank ·) = [] := List.dropWhile_eq_nil_iff.mpr hcs
    rw [squeeze, words, runs, if_neg hc, List.takeWhile_eq_self_iff.mpr hcs, hdrop, runs]
    simp [join]

end Text

@[simp] theorem DateForm.unbroken_mark (date : DateForm) : date.mark.Unbroken := by
  cases date with
  | dashed => exact Text.unbroken_cons.mpr ⟨by decide, Text.unbroken_nil⟩
  | compact => exact Text.unbroken_nil

-- ---------------------------------------------------------------------------
-- The tables
-- ---------------------------------------------------------------------------

namespace Layout

variable {layout : Layout} {table : List Layout} {clock : Clock} {text : Text} {f : DateFields}

/-- What one layout of a table takes, the table reads as that layout does. -/
theorem readFirst?_of_readAll (ht : table ∈ [literals, columns]) (hl : layout ∈ table)
    (hu : text.Unbroken) (h : readAll .none text layout.items = some f) :
    readFirst? table clock text = layout.read? clock text := by
  have hagree : ∀ a ∈ table, ∀ b ∈ table, agree a b := by
    simp only [List.mem_cons, List.not_mem_nil, or_false] at ht
    rcases ht with rfl | rfl
    · exact agree_literals
    · exact agree_columns
  rw [readFirst?, Text.squeeze_of_unbroken hu]
  cases hread : table.findSome? (·.read? clock text) with
  | none => exact (List.findSome?_eq_none_iff.mp hread layout hl).symm
  | some i =>
    obtain ⟨other, hother, hi⟩ := List.exists_of_findSome?_eq_some hread
    obtain ⟨g, hg⟩ := readAll_of_wall? (shows_of_read? hi).1
    obtain ⟨hwall, hlocal⟩ := same_of_agree (hagree other hother layout hl) hg h
    rw [← hi]
    simp only [read?, hwall, hlocal]

theorem read?_of_local (hl : layout.isLocal) :
    layout.read? clock text = (layout.wall? clock.today text).bind clock.zone.instant? := by
  simp [read?, hl]

end Layout

end LineFilter
