import LineFilter.Proofs.Time.Canonical

/-!
# Timestamps in order

Timestamps of one form are in the order of their texts: the parts stand from
year to millisecond, all digits of each are written, and instants are compared
by the same parts. Local clocks have to keep one offset for that, since a change
to summer time and back shows times in another order.
-/

namespace LineFilter

open Layout

variable {clock : Clock} {s t : Timestamp} {d e : Date} {date : DateForm} {time : TimeForm}

-- ---------------------------------------------------------------------------
-- The order of texts
-- ---------------------------------------------------------------------------

theorem DateForm.order_mark_append (left right : Text) :
    Text.order (date.mark ++ left) (date.mark ++ right) = Text.order left right := by
  cases date <;> simp [mark]

/-- Dates are in the order of their texts. -/
theorem DateForm.order_text (hd : d.Written) (he : e.Written) (left right : Text) :
    Text.order (date.text d ++ left) (date.text e ++ right) =
      (compare d.number e.number).then (Text.order left right) := by
  have hyear : compare d.year.toNat e.year.toNat = compare d.year e.year := by
    rw [← compare_natCast, Int.toNat_of_nonneg hd.year_nonneg, Int.toNat_of_nonneg he.year_nonneg]
  have hyears := hd.year_le
  have hyears' := he.year_le
  have hmonth := Date.month_le hd.isValid
  have hmonth' := Date.month_le he.isValid
  have hday := Date.day_le hd.isValid
  have hday' := Date.day_le he.isValid
  rw [Date.compare_number hd.isValid he.isValid]
  simp only [text, monthDay, List.append_assoc]
  rw [Text.order_padded_append (by decide) (by omega) (by omega), order_mark_append,
    Text.order_padded_append (by decide) (by omega) (by omega), order_mark_append,
    Text.order_padded_append (by decide) (by omega) (by omega), hyear]
  simp only [Ordering.then_assoc]

namespace Timestamp

theorem order_hour (s t : Timestamp) (left right : Text) :
    Text.order (Text.padded 2 s.hour ++ left) (Text.padded 2 t.hour ++ right) =
      (compare s.hour t.hour).then (Text.order left right) := by
  have hs := s.hour_le
  have ht := t.hour_le
  rw [Text.order_padded_append (by decide) (by omega) (by omega)]

theorem order_hourMinute (s t : Timestamp) (left right : Text) :
    Text.order (s.hourMinute ++ left) (t.hourMinute ++ right) =
      (compare (s.hour * 60 + s.minute) (t.hour * 60 + t.minute)).then (Text.order left right) := by
  have hs := Nat.lt_succ_of_le s.minute_le
  have ht := Nat.lt_succ_of_le t.minute_le
  simp only [hourMinute, List.append_assoc, List.cons_append]
  rw [order_hour, Text.order_cons, Text.order_padded_append (by decide) (by omega) (by omega),
    compare_digit hs ht, Ordering.then_assoc]

theorem order_hourMinuteSecond (s t : Timestamp) (left right : Text) :
    Text.order (s.hourMinuteSecond ++ left) (t.hourMinuteSecond ++ right) =
      (compare ((s.hour * 60 + s.minute) * 60 + s.second)
        ((t.hour * 60 + t.minute) * 60 + t.second)).then (Text.order left right) := by
  have hs := Nat.lt_succ_of_le s.second_le
  have ht := Nat.lt_succ_of_le t.second_le
  simp only [hourMinuteSecond, List.append_assoc, List.cons_append]
  rw [order_hourMinute, Text.order_cons, Text.order_padded_append (by decide) (by omega) (by omega),
    compare_digit hs ht, Ordering.then_assoc]

theorem order_milli (s t : Timestamp) :
    Text.order ('.' :: (Text.padded 3 s.milli ++ ['Z'])) ('.' :: (Text.padded 3 t.milli ++ ['Z'])) =
      compare (s.milli * 1000000) (t.milli * 1000000) := by
  have hs := s.milli_le
  have ht := t.milli_le
  rw [Text.order_cons, Text.order_padded_append (by decide) (by omega) (by omega),
    compare_mul (by decide)]
  simp [Text.order]

/-- Times of day are in the order of their texts. -/
theorem order_clockText (s t : Timestamp) (time : TimeForm) :
    Text.order (s.clockText time) (t.clockText time) =
      (compare (s.wall time).second (t.wall time).second).then
        (compare (s.wall time).nano (t.wall time).nano) := by
  have hminutes (t : Timestamp) :
      t.hour * 3600 + t.minute * 60 = (t.hour * 60 + t.minute) * 60 := by
    omega
  cases time with
  | universal =>
    simp only [clockText, wall, hminutes]
    rw [order_hourMinuteSecond, order_milli]
  | upTo precision =>
    cases precision with
    | day => simp [clockText, wall, WallTime.midnight, Text.order]
    | hour =>
      have h := order_hour s t [] []
      simpa [clockText, wall, Text.order, compare_mul] using h
    | minute =>
      have h := order_hourMinute s t [] []
      simpa [clockText, wall, Text.order, hminutes, compare_mul] using h
    | second =>
      have h := order_hourMinuteSecond s t [] []
      simpa [clockText, wall, Text.order, hminutes] using h

theorem order_text (s t : Timestamp) (date : DateForm) (time : TimeForm) :
    Text.order (s.text date time) (t.text date time) =
      (compare (s.wall time).count (t.wall time).count).then
        (compare (s.wall time).nano (t.wall time).nano) := by
  have hwall (t : Timestamp) : (t.wall time).count =
      t.date.number * WallTime.secondsPerDay + (t.wall time).second := by
    cases time with
    | universal => rfl
    | upTo precision => cases precision <;> rfl
  rw [text, text, DateForm.order_text s.written t.written, Text.order_cons, order_clockText,
    hwall, hwall, compare_mul_add, Ordering.then_assoc]
  · exact onClock_wall.2
  · exact onClock_wall.2

-- ---------------------------------------------------------------------------
-- The order of instants
-- ---------------------------------------------------------------------------

/-- One offset for all timestamps of a form: in universal time, and in a zone that
keeps its own. -/
def Steady (zone : Zone) (time : TimeForm) : Prop :=
  time = .universal ∨ ∃ offset, ∀ t, zone.offsetAt t = offset

theorem exists_offset (date : DateForm) (h : Steady clock.zone time) : ∃ offset,
    ∀ (t : Timestamp), ∀ table ∈ [literals, columns], readFirst? table clock (t.text date time) =
      some ⟨(t.wall time).count - offset, (t.wall time).nano, offset⟩ := by
  cases time with
  | universal =>
    refine ⟨0, fun t table ht => ?_⟩
    rw [readFirst?_universal ht, Int.sub_zero]
    rfl
  | upTo precision =>
    obtain ⟨offset, hzone⟩ := h.resolve_left nofun
    refine ⟨offset, fun t table ht => ?_⟩
    have hwall : clock.zone.wallAt ((t.wall (.upTo precision)).count - offset) =
        (t.wall (.upTo precision)).count := by
      rw [Zone.wallAt, hzone, Int.sub_add_cancel]
    have hcalendar := Zone.onCalendar_of_year onClock_wall year_wall.1 year_wall.2 hwall
    rw [readFirst?_upTo ht, Zone.instant?_of_constant hzone onClock_wall hcalendar]

theorem order_instants (s t : Timestamp) (date : DateForm) (time : TimeForm) (offset : Int) :
    Instant.order ⟨(s.wall time).count - offset, (s.wall time).nano, offset⟩
      ⟨(t.wall time).count - offset, (t.wall time).nano, offset⟩ =
        Text.order (s.text date time) (t.text date time) := by
  rw [order_text, Instant.order, Int.sub_eq_add_neg, Int.sub_eq_add_neg, compare_add_right]

/-- Timestamps of one form compare as their texts, whichever of them are literals. -/
theorem order_eq_text_order (date : DateForm) (h : Steady clock.zone time) (s t : Timestamp) :
    ∃ a b, Value.ofDate clock (s.text date time) = .ok a ∧
      Value.ofDate clock (t.text date time) = .ok b ∧
      Value.order clock (.untyped (s.text date time)) b =
        some (Text.order (s.text date time) (t.text date time)) ∧
      Value.order clock a (.untyped (t.text date time)) =
        some (Text.order (s.text date time) (t.text date time)) ∧
      Value.order clock a b = some (Text.order (s.text date time) (t.text date time)) := by
  obtain ⟨offset, hread⟩ := exists_offset date h
  have hliterals (t : Timestamp) := hread t literals (by simp)
  have hcolumns (t : Timestamp) := hread t columns (by simp)
  rw [← order_instants s t date time offset]
  refine ⟨_, _, by rw [Value.ofDate, hliterals], by rw [Value.ofDate, hliterals], ?_, ?_, ?_⟩
  · simp [Value.order, Value.typed?, Typed.adopt, Typed.order, hcolumns]
  · simp [Value.order, Value.typed?, Typed.adopt, Typed.order, hcolumns]
  · simp [Value.order, Value.typed?, Typed.order]

/-- Two minutes around the end of a leap day, on clocks five hours behind. -/
theorem order_eq_text_order_leapDay :
    let s : Timestamp := ⟨⟨2024, 2, 29⟩, 23, 59, 0, 0, ⟨by decide, by decide, by decide⟩,
      by decide, by decide, by decide, by decide⟩
    let t : Timestamp := ⟨⟨2024, 3, 1⟩, 0, 0, 0, 0, ⟨by decide, by decide, by decide⟩,
      by decide, by decide, by decide, by decide⟩
    let clock : Clock := ⟨0, 0, (ZoneRule.fixed (-18000)).zone (by decide)⟩
    s.text .dashed (.upTo .minute) = "2024-02-29T23:59".toList ∧
      t.text .dashed (.upTo .minute) = "2024-03-01T00:00".toList ∧
      ∃ a b, Value.ofDate clock (s.text .dashed (.upTo .minute)) = .ok a ∧
        Value.ofDate clock (t.text .dashed (.upTo .minute)) = .ok b ∧
        Value.order clock (.untyped (s.text .dashed (.upTo .minute))) b = some .lt ∧
        Value.order clock a (.untyped (t.text .dashed (.upTo .minute))) = some .lt ∧
        Value.order clock a b = some .lt := by
  refine ⟨by decide, by decide, ?_⟩
  exact order_eq_text_order .dashed (.inr ⟨-18000, fun _ => rfl⟩) _ _

end Timestamp

end LineFilter
