import Mathlib.Tactic.FieldSimp
import Mathlib.Tactic.Linarith
import LineFilter.Proofs.Number.Significant

/-!
# Rounding

A number is read to the digits that there is room for. Rounding happens in up to
three places, at the end of the digits, where a carry costs one more of them,
and where an exponent takes the fraction beyond its longest. However they meet,
the result is less than a unit away from what is written, and so it has the
digits of what is written only if nothing was rounded.
-/

namespace LineFilter

namespace DecimalLiteral

-- ---------------------------------------------------------------------------
-- Units
-- ---------------------------------------------------------------------------

/-- A mantissa that is less than nine tenths of a unit above a number, or less
than a unit below. -/
structure Near (y : ℚ) (m : Nat) : Prop where
  above : (m : ℚ) < y + 9 / 10
  below : y < m + 1

theorem Near.down {m : Nat} {t : ℚ} (h0 : 0 ≤ t) (h1 : t < 1) : Near (m + t) m :=
  ⟨by linarith, by linarith⟩

theorem Near.up {m : Nat} {t : ℚ} (h0 : 1 / 2 ≤ t) (h1 : t < 1) : Near (m + t) (m + 1) := by
  constructor
  · push_cast
    linarith
  · push_cast
    linarith

theorem ten_le_pow (k : Nat) : (10 : ℚ) ≤ 10 ^ (k + 1) :=
  le_self_pow₀ (by norm_num) k.succ_ne_zero

theorem Near.eq_of_mul {y w : ℚ} {m : Nat} (h : Near y m) (hw : 10 ≤ w)
    (hz : y = m * w ∨ m = y * w) : y = m := by
  obtain ⟨habove, hbelow⟩ := h
  have hm : (0 : ℚ) ≤ m := Nat.cast_nonneg m
  have hm1 : (m : ℚ) < 1 := by rcases hz with hz | hz <;> nlinarith
  obtain rfl : m = 0 := Nat.lt_one_iff.mp (by exact_mod_cast hm1)
  rcases hz with hz | hz
  · simpa using hz
  · have hw0 : w ≠ 0 := by linarith
    simpa [hw0] using hz.symm

theorem Near.eq_of_pow {y : ℚ} {m : Nat} (h : Near y m) {z : ℤ} (hz : m = y * 10 ^ z) : y = m := by
  obtain ⟨k, rfl | rfl⟩ := z.eq_nat_or_neg
  · cases k with
    | zero => simpa using hz.symm
    | succ k => exact h.eq_of_mul (ten_le_pow k) (.inr (by exact_mod_cast hz))
  · cases k with
    | zero => simpa using hz.symm
    | succ k =>
      refine h.eq_of_mul (ten_le_pow k) (.inl ?_)
      rw [hz, zpow_neg, zpow_natCast, inv_mul_cancel_right₀ (by positivity)]

/-- Digits are dropped with at most half a unit of error. -/
theorem dropScale_bounds (k m : Nat) :
    10 ^ (k + 1) * dropScale (k + 1) m ≤ m + 5 * 10 ^ k ∧
      m + 1 ≤ 10 ^ (k + 1) * dropScale (k + 1) m + 5 * 10 ^ k := by
  have hn : dropScale (k + 1) m = (m / 10 ^ k + 5) / 10 := rfl
  have hm := Nat.div_add_mod m (10 ^ k)
  have hlt := Nat.mod_lt m (Nat.pow_pos (by decide) : 0 < 10 ^ k)
  have hle : 10 ^ k * (10 * dropScale (k + 1) m) ≤ 10 ^ k * (m / 10 ^ k + 5) :=
    Nat.mul_le_mul_left _ (by omega)
  have hge : 10 ^ k * (m / 10 ^ k + 1) ≤ 10 ^ k * (10 * dropScale (k + 1) m + 5) :=
    Nat.mul_le_mul_left _ (by omega)
  simp only [Nat.mul_add, Nat.mul_one] at hle hge
  rw [pow_succ, Nat.mul_assoc]
  constructor <;> omega

theorem Near.dropScale {y : ℚ} {m : Nat} (h : Near y m) (k : Nat) :
    Near (y / 10 ^ (k + 1)) (dropScale (k + 1) m) := by
  obtain ⟨habove, hbelow⟩ := h
  obtain ⟨hle, hge⟩ := dropScale_bounds k m
  have hp : (1 : ℚ) ≤ 10 ^ k := one_le_pow₀ (by norm_num)
  have hle' : (10 : ℚ) ^ (k + 1) * DecimalLiteral.dropScale (k + 1) m ≤ m + 5 * 10 ^ k := by
    exact_mod_cast hle
  have hge' : (m : ℚ) + 1 ≤ 10 ^ (k + 1) * DecimalLiteral.dropScale (k + 1) m + 5 * 10 ^ k := by
    exact_mod_cast hge
  constructor
  · rw [← sub_lt_iff_lt_add, lt_div_iff₀ (by positivity)]
    rw [pow_succ] at *
    linarith
  · rw [div_lt_iff₀ (by positivity)]
    rw [pow_succ] at *
    linarith

-- ---------------------------------------------------------------------------
-- Digits as they are read
-- ---------------------------------------------------------------------------

/-- Further digits are a fraction of a unit. -/
theorem exists_tail {digits : Text} (h : ∀ c ∈ digits, Text.isDigit c) (m : Nat) :
    ∃ t : ℚ, 0 ≤ t ∧ t < 1 ∧ Nat.ofDigitChars 10 digits m = (m + t) * 10 ^ digits.length := by
  induction digits generalizing m with
  | nil => exact ⟨0, le_rfl, one_pos, by simp⟩
  | cons c cs ih =>
    obtain ⟨hlt, -⟩ := Digits.digitChar_of_isDigit (h c (by simp))
    obtain ⟨t, ht0, ht1, ht⟩ := ih (fun d hd => h d (by simp [hd])) (10 * m + (c.toNat - 48))
    have hd0 : (0 : ℚ) ≤ (c.toNat - 48 : Nat) := Nat.cast_nonneg _
    have hd9 : ((c.toNat - 48 : Nat) : ℚ) ≤ 9 := by exact_mod_cast Nat.le_of_lt_succ hlt
    refine ⟨((c.toNat - 48 : Nat) + t) / 10, by linarith, by linarith, ?_⟩
    rw [Nat.ofDigitChars_cons, show '0'.toNat = 48 from rfl, ht, List.length_cons, pow_succ]
    push_cast
    ring

namespace Reading

variable {r : Reading} {c : Char} {text : Text} {m s : Nat}

/-- The number of the digits to be read, after those that have been. -/
def number (r : Reading) (text : Text) : ℚ :=
  Nat.ofDigitChars 10 (text.filter Text.isDigit) r.mantissa /
    10 ^ (if r.pointed then r.scale + text.countP Text.isDigit
      else (text.dropWhile (· ≠ '.')).countP Text.isDigit)

theorem number_nil (hr : r.pointed ∨ r.scale = 0) : r.number [] * 10 ^ r.scale = r.mantissa := by
  rcases hr with hr | hr <;> simp [number, hr]

theorem number_digit (hc : Text.isDigit c) :
    r.number (c :: text) = Reading.number ⟨r.mantissa * 10 + (c.toNat - 48),
      if r.pointed then r.scale + 1 else r.scale, r.pointed, true⟩ text := by
  have hpoint : c ≠ '.' := by
    rintro rfl
    exact absurd hc (by decide)
  cases hp : r.pointed <;>
    simp [number, hp, hc, hpoint, Nat.ofDigitChars_cons, Nat.mul_comm, Nat.add_comm,
      Nat.add_left_comm]

theorem number_point (hp : r.pointed = false) (hs : r.scale = 0) :
    r.number ('.' :: text) = Reading.number { r with pointed := true } text := by
  have hdigit : Text.isDigit '.' = false := by decide
  simp [number, hp, hs, hdigit]

/-- The digits to be read are less than a unit of what has been. -/
theorem exists_number (hp : r.pointed) (text : Text) :
    ∃ t : ℚ, 0 ≤ t ∧ t < 1 ∧ r.number text * 10 ^ r.scale = r.mantissa + t := by
  have hall : ∀ c ∈ text.filter Text.isDigit, Text.isDigit c := fun c hc =>
    (List.mem_filter.mp hc).2
  obtain ⟨t, ht0, ht1, ht⟩ := exists_tail hall r.mantissa
  refine ⟨t, ht0, ht1, ?_⟩
  rw [number, if_pos hp, ht, List.countP_eq_length_filter, pow_add]
  field_simp

/-- They are half a unit or more if the first of them is five or more. -/
theorem exists_number_digit (hp : r.pointed) (hc : Text.isDigit c) (text : Text) :
    ∃ t : ℚ, 0 ≤ t ∧ t < 1 ∧ (5 ≤ c.toNat - 48 → 1 / 2 ≤ t) ∧
      r.number (c :: text) * 10 ^ r.scale = r.mantissa + t := by
  obtain ⟨t, ht0, ht1, ht⟩ := exists_number
    (r := ⟨r.mantissa * 10 + (c.toNat - 48), r.scale + 1, r.pointed, true⟩) hp text
  obtain ⟨hlt, -⟩ := Digits.digitChar_of_isDigit hc
  rw [number_digit hc, if_pos hp]
  generalize c.toNat - 48 = d at *
  have hd0 : (0 : ℚ) ≤ d := Nat.cast_nonneg d
  have hd9 : (d : ℚ) ≤ 9 := by exact_mod_cast Nat.le_of_lt_succ hlt
  refine ⟨(d + t) / 10, by linarith, by linarith, ?_, ?_⟩
  · intro h5
    have hd5 : (5 : ℚ) ≤ d := by exact_mod_cast h5
    linarith
  · rw [pow_succ, ← mul_assoc, ← eq_div_iff (by norm_num)] at ht
    rw [ht]
    push_cast
    ring

theorem round_near (hp : r.pointed) (h : r.round c = .ok (m, s)) :
    Near (r.number (c :: text) * 10 ^ s) m := by
  unfold round at h
  rcases Digits.worthIn?_cases c with ⟨hc, hw, -⟩ | ⟨hc, hw⟩
  · obtain ⟨t, ht0, ht1, ht5, ht⟩ := exists_number_digit hp hc text
    have hdown : Near (r.number (c :: text) * 10 ^ r.scale) r.mantissa := ht ▸ .down ht0 ht1
    simp only [hw] at h
    split_ifs at h with h5 hfits hscale
    · cases h
      exact hdown
    · cases h
      exact ht ▸ .up (ht5 (Nat.le_of_not_lt h5)) ht1
    · -- The carry takes one more digit away, and that is rounded as well.
      cases h
      obtain ⟨k, hk⟩ := Nat.exists_eq_succ_of_ne_zero hscale
      have hdrop := hdown.dropScale 0
      rw [hk, Nat.succ_eq_add_one, pow_succ, ← mul_assoc, zero_add, pow_one,
        mul_div_cancel_right₀ _ (by norm_num)] at hdrop
      simpa [hk, DecimalLiteral.dropScale] using hdrop
  · obtain ⟨t, ht0, ht1, ht⟩ := exists_number hp (c :: text)
    simp only [hw] at h
    split_ifs at h
    cases h
    exact ht ▸ .down ht0 ht1

/-- A reading ends near the number of its digits. -/
theorem finish_near (hr : r.pointed ∨ r.scale = 0) (h : r.finish text = .ok (m, s)) :
    Near (r.number text * 10 ^ s) m := by
  induction text generalizing r with
  | nil =>
    rw [finish] at h
    split_ifs at h
    cases h
    rw [number_nil hr, ← add_zero (r.mantissa : ℚ)]
    exact .down le_rfl one_pos
  | cons c cs ih =>
    rw [finish] at h
    by_cases hmax : r.scale = Decimal.maxScale
    · rw [if_pos hmax] at h
      exact round_near (hr.resolve_right fun h0 => zero_ne_maxScale (h0.symm.trans hmax)) h
    rw [if_neg hmax] at h
    rcases Digits.worthIn?_cases c with ⟨hc, hw, -⟩ | ⟨hc, hw⟩
    · simp only [hw] at h
      by_cases hfits : r.mantissa * 10 + (c.toNat - 48) < Decimal.mantissaBound
      · rw [if_pos hfits] at h
        rw [number_digit hc]
        refine ih ?_ h
        cases hp : r.pointed <;> simp_all
      · rw [if_neg hfits] at h
        split_ifs at h with hp
        exact round_near hp h
    · simp only [hw] at h
      split_ifs at h with hpoint hp
      obtain rfl : c = '.' := of_not_not hpoint
      rw [number_point (by simpa using hp) (hr.resolve_left hp)]
      exact ih (.inl rfl) h

end Reading

-- ---------------------------------------------------------------------------
-- Exponents
-- ---------------------------------------------------------------------------

/-- A decimal on the same side of zero as a number, and near it in units of its
last place. -/
structure Rounds (q : ℚ) (d : Decimal) : Prop where
  side : 0 ≤ q * d.mantissa
  near : Near (|q| * 10 ^ d.scale) d.mantissa.natAbs

variable {d e : Decimal} {n : Nat} {q : ℚ}

theorem dropScale_zero (k : Nat) : dropScale k 0 = 0 := by
  cases k <;> simp [dropScale]

theorem lower_rounds (hr : Rounds q d) (h : lower d n = .ok e) : Rounds (q / 10 ^ n) e := by
  obtain ⟨hside, hnear⟩ := hr
  have hpow : (0 : ℚ) < 10 ^ n := by positivity
  unfold lower at h
  split_ifs at h with hmax hfits
  · obtain rfl : _ = e := by simpa using h
    constructor
    · rw [div_mul_eq_mul_div]
      positivity
    · rw [abs_div, abs_of_pos hpow, pow_add]
      field_simp
      exact hnear
  · obtain ⟨k, hk⟩ := Nat.exists_eq_add_of_lt (Nat.lt_of_not_le hfits)
    have hexcess : d.scale + n - Decimal.maxScale = k + 1 := by omega
    obtain rfl : _ = e := by simpa [hexcess] using h
    constructor
    · have hsign : 0 ≤ q * (d.mantissa.sign : ℚ) := by
        rcases mul_nonneg_iff.mp hside with ⟨hq, hd⟩ | ⟨hq, hd⟩
        · refine mul_nonneg hq ?_
          exact_mod_cast Int.sign_nonneg_iff.mpr (by exact_mod_cast hd)
        · refine mul_nonneg_of_nonpos_of_nonpos hq ?_
          exact_mod_cast Int.sign_nonpos_iff.mpr (by exact_mod_cast hd)
      rw [Int.cast_mul, div_mul_eq_mul_div, ← mul_assoc]
      positivity
    · have habs : (d.mantissa.sign * dropScale (k + 1) d.mantissa.natAbs).natAbs =
          dropScale (k + 1) d.mantissa.natAbs := by
        rcases eq_or_ne d.mantissa 0 with hzero | hne
        · simp [hzero, dropScale_zero]
        · rw [Int.natAbs_mul, Int.natAbs_sign_of_ne_zero hne, Int.natAbs_natCast, Nat.one_mul]
      have hshift : |q / 10 ^ n| * 10 ^ Decimal.maxScale = |q| * 10 ^ d.scale / 10 ^ (k + 1) := by
        have hscale : (10 : ℚ) ^ Decimal.maxScale * 10 ^ (k + 1) = 10 ^ d.scale * 10 ^ n := by
          rw [← pow_add, ← pow_add, hk, Nat.add_assoc]
        rw [abs_div, abs_of_pos hpow, div_mul_eq_mul_div,
          div_eq_div_iff (by positivity) (by positivity), mul_assoc, hscale, mul_assoc]
      rw [habs, hshift]
      exact hnear.dropScale k

theorem raise_rounds (hr : Rounds q d) (h : raise d n = .ok e) :
    ∃ k : ℤ, ∃ j : Nat, e.mantissa = k * 10 ^ j ∧ Rounds (q * 10 ^ n / 10 ^ j) ⟨k, e.scale⟩ := by
  obtain ⟨hside, hnear⟩ := hr
  have hpow : (0 : ℚ) < 10 ^ n := by positivity
  unfold raise at h
  split_ifs at h with hfits hmax
  · obtain rfl : _ = e := by simpa using h
    refine ⟨d.mantissa, 0, by simp, ?_, ?_⟩
    · rw [pow_zero, div_one, mul_right_comm]
      positivity
    · rw [pow_zero, div_one, abs_mul, abs_of_pos hpow, mul_assoc, ← pow_add,
        Nat.add_sub_cancel' hfits]
      exact hnear
  · dsimp only at h
    split_ifs at h
    simp only [Except.ok.injEq] at h
    obtain rfl := h
    have hcancel : q * 10 ^ n / 10 ^ (n - d.scale) = q * 10 ^ d.scale := by
      rw [div_eq_iff (by positivity), mul_assoc, ← pow_add,
        Nat.add_sub_cancel' (Nat.le_of_not_le hfits)]
    refine ⟨d.mantissa, n - d.scale, by simp, ?_, ?_⟩
    · rw [hcancel, mul_right_comm]
      positivity
    · rw [hcancel, abs_mul, abs_of_pos (by positivity : (0 : ℚ) < 10 ^ d.scale), pow_zero, mul_one]
      exact hnear

/-- A decimal that rounds a number and has its digits is that number. -/
theorem Rounds.eq_of_pow {z : ℤ} (h : Rounds q d) (hz : (d.mantissa.natAbs : ℚ) = |q| * 10 ^ z) :
    q * 10 ^ d.scale = d.mantissa := by
  obtain ⟨hside, hnear⟩ := h
  have hpow : (0 : ℚ) < 10 ^ d.scale := by positivity
  have hmagnitude : |q| * 10 ^ d.scale = d.mantissa.natAbs := by
    refine hnear.eq_of_pow (z := z - d.scale) ?_
    rw [hz, mul_assoc, zpow_sub₀ (by norm_num), zpow_natCast, mul_div_cancel₀ _ hpow.ne']
  rw [← abs_of_pos hpow, ← abs_mul, Nat.cast_natAbs, Int.cast_abs, abs_eq_abs] at hmagnitude
  rcases hmagnitude with heq | hneg
  · exact heq
  · -- Only zero is on both sides of zero.
    have hzero : (d.mantissa : ℚ) = 0 := by nlinarith
    rw [hneg, hzero, neg_zero]

end DecimalLiteral

end LineFilter
