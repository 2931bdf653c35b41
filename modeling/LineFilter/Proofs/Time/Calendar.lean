import Mathlib.Algebra.GroupWithZero.Nat
import Mathlib.Tactic.ByContra
import Mathlib.Tactic.SplitIfs
import LineFilter.Time.Date

/-!
# Dates and their numbers

The date with a number has that number: the year that is estimated is the one
whose days hold the day, and its months are counted off up to the day. A date of
the calendar is also the one with its number, and numbers are in the order of
year, month and day.
-/

namespace LineFilter.Date

-- ---------------------------------------------------------------------------
-- Years
-- ---------------------------------------------------------------------------

theorem daysBeforeYear_succ (year : Int) :
    daysBeforeYear (year + 1) = daysBeforeYear year + if isLeap year then 366 else 365 := by
  simp only [daysBeforeYear, isLeap, Bool.and_eq_true, Bool.or_eq_true, decide_eq_true_eq]
  split <;> omega

theorem daysBeforeYear_le {a b : Int} (h : a ≤ b) : daysBeforeYear a ≤ daysBeforeYear b := by
  simp only [daysBeforeYear]
  omega

/-- The year of a day is the one that the day lies in. -/
theorem yearOf_holds (days : Int) :
    daysBeforeYear (yearOf days) ≤ days ∧ days < daysBeforeYear (yearOf days + 1) := by
  simp only [yearOf]
  split_ifs with hearly hlate
  · simp only [daysBeforeYear] at *
    omega
  · simp only [daysBeforeYear] at *
    omega
  · exact ⟨by omega, by omega⟩

-- ---------------------------------------------------------------------------
-- Months
-- ---------------------------------------------------------------------------

theorem daysBeforeMonth_eq_sum (year : Int) (month : Nat) :
    daysBeforeMonth year month = ((monthLengths year).take (month - 1)).sum :=
  List.sum_eq_foldl.symm

theorem number_mono (year : Int) {m n : Nat} (h : m ≤ n) :
    number ⟨year, m, 1⟩ ≤ number ⟨year, n, 1⟩ := by
  obtain ⟨k, hk⟩ := Nat.exists_eq_add_of_le (Nat.sub_le_sub_right h 1)
  simp only [number, daysBeforeMonth_eq_sum, hk, List.take_add, List.sum_append_nat]
  omega

/-- From the first day of a month to the next one there is the length of the
month, four weeks at least. -/
theorem number_next (year : Int) {month : Nat} (h : 1 ≤ month) (h' : month ≤ 12) :
    ∃ length, (monthLengths year)[month - 1]? = some length ∧ 28 ≤ length ∧
      number ⟨year, month + 1, 1⟩ = number ⟨year, month, 1⟩ + length := by
  have hlt : month - 1 < (monthLengths year).length := by simp [monthLengths]; omega
  refine ⟨_, List.getElem?_eq_getElem hlt, ?_, ?_⟩
  · have hall : ∀ length ∈ monthLengths year, 28 ≤ length := by
      simp only [monthLengths, february]
      split <;> decide
    exact hall _ (List.getElem_mem hlt)
  · have htake := List.take_append_getElem hlt
    rw [Nat.sub_add_cancel h] at htake
    simp only [number, daysBeforeMonth_eq_sum, Nat.add_sub_cancel, ← htake, List.sum_append_nat,
      List.sum_singleton]
    omega

/-- The month behind December is the January of the next year. -/
theorem number_newYear (year : Int) : number ⟨year, 13, 1⟩ = number ⟨year + 1, 1, 1⟩ := by
  simp only [number, daysBeforeYear_succ, daysBeforeMonth_eq_sum, monthLengths, february]
  split <;> simp <;> omega

/-- Splitting off months counts every day once. -/
theorem splitMonths_sum (m : Nat) (lengths : List Nat) (day : Nat) :
    m ≤ (splitMonths m lengths day).1 ∧
      (lengths.take ((splitMonths m lengths day).1 - m)).sum + (splitMonths m lengths day).2 =
        day + 1 := by
  induction lengths generalizing m day with
  | nil => simp [splitMonths]
  | cons length lengths ih =>
    rw [splitMonths]
    split_ifs with hday
    · simp
    · obtain ⟨hle, hsum⟩ := ih (m + 1) (day - length)
      generalize splitMonths (m + 1) lengths (day - length) = split at hle hsum ⊢
      obtain ⟨k, hk⟩ := Nat.exists_eq_add_of_le hle
      have hdrop : split.1 - m = k + 1 := by omega
      have hdrop' : split.1 - (m + 1) = k := by omega
      rw [hdrop'] at hsum
      rw [hdrop, List.take_succ_cons, List.sum_cons]
      omega

/-- The date with a number has that number. -/
theorem number_ofNumber (n : Int) : (ofNumber n).number = n := by
  obtain ⟨hyear, -⟩ := yearOf_holds (n - firstDay)
  obtain ⟨-, hsum⟩ := splitMonths_sum 1 (monthLengths (yearOf (n - firstDay)))
    (n - firstDay - daysBeforeYear (yearOf (n - firstDay))).toNat
  simp only [ofNumber, number, daysBeforeMonth_eq_sum]
  omega

theorem number_newYear_le {a b : Int} (h : a ≤ b) : number ⟨a, 1, 1⟩ ≤ number ⟨b, 1, 1⟩ := by
  have hdays := daysBeforeYear_le h
  simp only [number, daysBeforeMonth_eq_sum, Nat.sub_self, List.take_zero, List.sum_nil]
  omega

/-- The year of a day lies between two first days of January. -/
theorem year_ofNumber (n : Int) :
    number ⟨(ofNumber n).year, 1, 1⟩ ≤ n ∧ n < number ⟨(ofNumber n).year + 1, 1, 1⟩ := by
  obtain ⟨hle, hlt⟩ := yearOf_holds (n - firstDay)
  simp only [number, ofNumber, daysBeforeMonth_eq_sum, Nat.sub_self, List.take_zero, List.sum_nil]
  omega

/-- A day is in the year of the day before, or it begins its own. -/
theorem year_next (n : Int) :
    (ofNumber n).year = (ofNumber (n - 1)).year ∨
      number ⟨(ofNumber (n - 1)).year + 1, 1, 1⟩ ≤ n ∧ n ≤ number ⟨(ofNumber n).year, 1, 1⟩ := by
  obtain ⟨hle, hlt⟩ := year_ofNumber (n - 1)
  obtain ⟨hle', hlt'⟩ := year_ofNumber n
  rcases Int.lt_trichotomy (ofNumber n).year (ofNumber (n - 1)).year with hyear | hyear | hyear
  · have := number_newYear_le (Int.add_one_le_of_lt hyear)
    omega
  · exact .inl hyear
  · have := number_newYear_le (Int.add_one_le_of_lt hyear)
    exact .inr (by omega)

variable {d e : Date} {n : Int}

-- ---------------------------------------------------------------------------
-- Dates of the calendar
-- ---------------------------------------------------------------------------

theorem isValid_iff : d.isValid ↔ minYear ≤ d.year ∧ d.year ≤ maxYear ∧ 1 ≤ d.month ∧ 1 ≤ d.day ∧
    ∃ length, (monthLengths d.year)[d.month - 1]? = some length ∧ d.day ≤ length := by
  simp [isValid, Option.any_eq_true, and_assoc]

theorem sum_monthLengths (year : Int) :
    (monthLengths year).sum = if isLeap year then 366 else 365 := by
  simp only [monthLengths, february]
  split <;> rfl

/-- The days before a month and those of the month are days of the year. -/
theorem sum_take_add_le {lengths : List Nat} {k length : Nat} (h : lengths[k]? = some length) :
    (lengths.take k).sum + length ≤ lengths.sum := by
  induction lengths generalizing k with
  | nil => simp at h
  | cons l lengths ih =>
    cases k with
    | zero =>
      obtain rfl : l = length := by simpa using h
      simp
    | succ k =>
      have hrest : lengths[k]? = some length := by simpa using h
      have := ih hrest
      simp only [List.take_succ_cons, List.sum_cons]
      omega

/-- Splitting off months ends in the one that holds the day. -/
theorem splitMonths_take {lengths : List Nat} {k length day : Nat} (m : Nat)
    (h : lengths[k]? = some length) (hd : day < length) :
    splitMonths m lengths ((lengths.take k).sum + day) = (m + k, day + 1) := by
  induction lengths generalizing k m with
  | nil => simp at h
  | cons l lengths ih =>
    cases k with
    | zero =>
      obtain rfl : l = length := by simpa using h
      simp [splitMonths, hd]
    | succ k =>
      have hrest : l + (lengths.take k).sum + day - l = (lengths.take k).sum + day := by omega
      have hlate : ¬ l + (lengths.take k).sum + day < l := by omega
      rw [List.take_succ_cons, List.sum_cons, splitMonths, if_neg hlate, hrest,
        ih (m + 1) (by simpa using h)]
      simp only [Prod.mk.injEq, and_true]
      omega

/-- A day of the year is a day of one of its months. -/
theorem exists_month {lengths : List Nat} {day : Nat} (h : day < lengths.sum) :
    ∃ k length rest, lengths[k]? = some length ∧ rest < length ∧
      day = (lengths.take k).sum + rest := by
  induction lengths generalizing day with
  | nil => simp at h
  | cons l lengths ih =>
    by_cases hday : day < l
    · exact ⟨0, l, day, rfl, hday, by simp⟩
    · have hday' : day - l < lengths.sum := by
        rw [List.sum_cons] at h
        omega
      obtain ⟨k, length, rest, hk, hrest, heq⟩ := ih hday'
      refine ⟨k + 1, length, rest, by simpa using hk, hrest, ?_⟩
      rw [List.take_succ_cons, List.sum_cons]
      omega

/-- A year holds the days from its first to the next one's. -/
theorem yearOf_eq {year days : Int} (h : daysBeforeYear year ≤ days)
    (h' : days < daysBeforeYear (year + 1)) : yearOf days = year := by
  obtain ⟨hle, hlt⟩ := yearOf_holds days
  rcases Int.lt_trichotomy (yearOf days) year with hyear | hyear | hyear
  · have := daysBeforeYear_le (Int.add_one_le_of_lt hyear)
    omega
  · exact hyear
  · have := daysBeforeYear_le (Int.add_one_le_of_lt hyear)
    omega

/-- A date of the calendar is a day of its year. -/
theorem exists_dayOfYear (h : d.isValid) : ∃ length day, d.day = day + 1 ∧ day < length ∧
    (monthLengths d.year)[d.month - 1]? = some length ∧
    d.number - firstDay = daysBeforeYear d.year +
      (((monthLengths d.year).take (d.month - 1)).sum + day : Nat) := by
  obtain ⟨-, -, -, hday, length, hlength, hle⟩ := isValid_iff.mp h
  refine ⟨length, d.day - 1, by omega, by omega, hlength, ?_⟩
  simp only [number, daysBeforeMonth_eq_sum]
  omega

/-- A date of the calendar is the one with its number. -/
theorem ofNumber_number (h : d.isValid) : ofNumber d.number = d := by
  obtain ⟨length, day, hday, hlt, hlength, hnumber⟩ := exists_dayOfYear h
  have hsum := sum_take_add_le hlength
  have hyear : yearOf (d.number - firstDay) = d.year := by
    apply yearOf_eq
    · omega
    · rw [daysBeforeYear_succ]
      rw [sum_monthLengths] at hsum
      split_ifs at hsum ⊢ <;> omega
  have hrest : (d.number - firstDay - daysBeforeYear d.year).toNat =
      ((monthLengths d.year).take (d.month - 1)).sum + day := by omega
  have hmonth : 1 + (d.month - 1) = d.month := by
    have := (isValid_iff.mp h).2.2.1
    omega
  simp only [ofNumber, hyear, hrest, splitMonths_take 1 hlength hlt, hmonth, ← hday]

/-- In the years of the calendar every number is that of a date. -/
theorem isValid_ofNumber (h : number ⟨minYear, 1, 1⟩ ≤ n) (h' : n < number ⟨maxYear + 1, 1, 1⟩) :
    (ofNumber n).isValid := by
  obtain ⟨hle, hlt⟩ := year_ofNumber n
  have hmin : minYear ≤ (ofNumber n).year := by
    by_contra hlow
    have := number_newYear_le (show (ofNumber n).year + 1 ≤ minYear by omega)
    omega
  have hmax : (ofNumber n).year ≤ maxYear := by
    by_contra hhigh
    have := number_newYear_le (show maxYear + 1 ≤ (ofNumber n).year by omega)
    omega
  refine isValid_iff.mpr ⟨hmin, hmax, ?_⟩
  obtain ⟨hfirst, hlast⟩ := yearOf_holds (n - firstDay)
  have hday : (n - firstDay - daysBeforeYear (yearOf (n - firstDay))).toNat <
      (monthLengths (yearOf (n - firstDay))).sum := by
    rw [daysBeforeYear_succ] at hlast
    rw [sum_monthLengths]
    split_ifs at hlast ⊢ <;> omega
  obtain ⟨k, length, rest, hk, hrest, heq⟩ := exists_month hday
  simp only [ofNumber, heq, splitMonths_take 1 hk hrest]
  exact ⟨by omega, by omega, length, by simpa using hk, hrest⟩

-- ---------------------------------------------------------------------------
-- The order of dates
-- ---------------------------------------------------------------------------

theorem number_le (h : 1 ≤ d.day) : number ⟨d.year, d.month, 1⟩ ≤ d.number := by
  simp only [number]
  omega

theorem month_le (h : d.isValid) : d.month ≤ 12 := by
  obtain ⟨-, -, -, -, length, hlength, -⟩ := isValid_iff.mp h
  have hlt := (List.getElem?_eq_some_iff.mp hlength).1
  simp only [monthLengths, List.length_cons, List.length_nil] at hlt
  omega

theorem day_le (h : d.isValid) : d.day ≤ 31 := by
  obtain ⟨-, -, -, -, length, hlength, hle⟩ := isValid_iff.mp h
  have hall : ∀ length ∈ monthLengths d.year, length ≤ 31 := by
    simp only [monthLengths, february]
    split <;> decide
  exact Nat.le_trans hle (hall length (List.mem_of_getElem? hlength))

theorem number_lt_nextMonth (h : d.isValid) : d.number < number ⟨d.year, d.month + 1, 1⟩ := by
  obtain ⟨-, -, hmonth, -, length, hlength, hle⟩ := isValid_iff.mp h
  obtain ⟨length', hlength', -, hnext⟩ := number_next d.year hmonth (month_le h)
  obtain rfl : length = length' := Option.some.inj (hlength.symm.trans hlength')
  rw [hnext]
  simp only [number]
  omega

theorem number_lt_of_month (hd : d.isValid) (he : e.isValid) (hy : d.year = e.year)
    (hm : d.month < e.month) : d.number < e.number := by
  have hnext := number_lt_nextMonth hd
  have hmono := number_mono d.year (show d.month + 1 ≤ e.month from hm)
  have hle := number_le (isValid_iff.mp he).2.2.2.1
  rw [hy] at hmono hnext
  omega

theorem number_lt_of_year (hd : d.isValid) (he : e.isValid) (hy : d.year < e.year) :
    d.number < e.number := by
  have hnext := number_lt_nextMonth hd
  have hlast := number_mono d.year (Nat.add_le_add_right (month_le hd) 1)
  have hyears := number_newYear_le (Int.add_one_le_of_lt hy)
  have hfirst := number_mono e.year (isValid_iff.mp he).2.2.1
  have hle := number_le (isValid_iff.mp he).2.2.2.1
  rw [number_newYear] at hlast
  omega

/-- Dates of the calendar are in the order of year, month and day. -/
theorem compare_number (hd : d.isValid) (he : e.isValid) :
    compare d.number e.number =
      (compare d.year e.year).then ((compare d.month e.month).then (compare d.day e.day)) := by
  rcases Int.lt_trichotomy d.year e.year with hy | hy | hy
  · rw [Int.compare_eq_lt.mpr hy, Int.compare_eq_lt.mpr (number_lt_of_year hd he hy)]
    rfl
  · rw [Int.compare_eq_eq.mpr hy]
    rcases Nat.lt_trichotomy d.month e.month with hm | hm | hm
    · rw [Nat.compare_eq_lt.mpr hm, Int.compare_eq_lt.mpr (number_lt_of_month hd he hy hm)]
      rfl
    · rw [Nat.compare_eq_eq.mpr hm]
      simp only [number, hy, hm, Ordering.eq_then]
      rcases Nat.lt_trichotomy d.day e.day with h | h | h
      · rw [Nat.compare_eq_lt.mpr h, Int.compare_eq_lt]
        omega
      · rw [h, Nat.compare_eq_eq.mpr rfl, Int.compare_eq_eq.mpr rfl]
      · rw [Nat.compare_eq_gt.mpr h, Int.compare_eq_gt]
        omega
    · rw [Nat.compare_eq_gt.mpr hm, Int.compare_eq_gt.mpr (number_lt_of_month he hd hy.symm hm)]
      rfl
  · rw [Int.compare_eq_gt.mpr hy, Int.compare_eq_gt.mpr (number_lt_of_year he hd hy)]
    rfl

end LineFilter.Date
