import LineFilter.Proofs.Comparison.Sides
import LineFilter.Proofs.Number.Rounding

/-!
# Exact decimals

A decimal literal is the number that is written in it or it is refused. Reading
compares no numbers, only digits without the zeros at their ends; that is enough
since rounding never leaves those digits as they were.
-/

namespace LineFilter

namespace DecimalLiteral

open IntegerLiteral (splitSign withoutSeparators)

-- ---------------------------------------------------------------------------
-- The number that is written
-- ---------------------------------------------------------------------------

/-- The digits of a text as a number, below zero behind `-`. -/
def signed (text : Text) : ℤ :=
  (if text.head? = some '-' then -1 else 1) * Digits.spelled (text.filter Text.isDigit)

/-- How many digits of a text stand behind its point. -/
def fractionDigits (text : Text) : Nat :=
  (text.dropWhile (· ≠ '.')).countP Text.isDigit

/-- The number written in a text: its digits, the point among them, times the
power of ten behind the mark. -/
def written (text : Text) : ℚ :=
  signed (text.takeWhile (!marksExponent ·)) *
    10 ^ (signed (text.dropWhile (!marksExponent ·)).tail -
      (fractionDigits (text.takeWhile (!marksExponent ·)) : ℤ))

variable {text : Text} {d e : Decimal} {n : Nat}

theorem signed_splitSign : signed text =
    (if (splitSign text).1 then -1 else 1) *
      Digits.spelled ((splitSign text).2.filter Text.isDigit) := by
  have hminus : Text.isDigit '-' = false := by decide
  have hplus : Text.isDigit '+' = false := by decide
  cases text with
  | nil => rfl
  | cons c cs =>
    rw [IntegerLiteral.splitSign_cons, signed]
    split_ifs <;> simp_all

theorem fractionDigits_splitSign : fractionDigits text = fractionDigits (splitSign text).2 := by
  cases text with
  | nil => rfl
  | cons c cs =>
    rw [IntegerLiteral.splitSign_cons]
    split_ifs <;> simp_all [fractionDigits]

theorem plain_rounds (h : plain text = .ok d) :
    Rounds (signed text / 10 ^ fractionDigits text) d := by
  obtain ⟨m, hf, hm⟩ := plain_eq_ok h
  have hnear := Reading.finish_near (.inr rfl) hf
  rw [signed_splitSign, fractionDigits_splitSign]
  rw [Reading.number, if_neg (by decide), ← fractionDigits, ← Digits.spelled] at hnear
  generalize Digits.spelled ((splitSign text).2.filter Text.isDigit) = digits at *
  have hpow : (0 : ℚ) < 10 ^ fractionDigits (splitSign text).2 := by positivity
  constructor
  · rw [hm, div_mul_eq_mul_div]
    refine div_nonneg ?_ hpow.le
    cases (splitSign text).1 <;> simp <;> positivity
  · have habs : |((if (splitSign text).1 then -1 else 1 : ℤ) * digits : ℤ)| = (digits : ℤ) := by
      cases (splitSign text).1 <;> simp
    have hnat : d.mantissa.natAbs = m := by
      rw [hm]
      cases (splitSign text).1 <;> simp
    rw [abs_div, abs_of_pos hpow, ← Int.cast_abs, habs, hnat, Int.cast_natCast]
    exact hnear

theorem spelled_of_exponent? (h : exponent? text = some n) :
    Digits.spelled (text.filter Text.isDigit) = n := by
  have hplus : Text.isDigit '+' = false := by decide
  unfold exponent? at h
  have hread := (Option.filter_eq_some_iff.mp h).1
  split at hread
  · rw [List.filter_cons_of_neg (by simp [hplus])]
    exact Digits.spelled_of_read? hread
  · exact Digits.spelled_of_read? hread

theorem written_eq (text : Text) :
    written text = signed (text.takeWhile (!marksExponent ·)) /
      10 ^ fractionDigits (text.takeWhile (!marksExponent ·)) *
        10 ^ signed (text.dropWhile (!marksExponent ·)).tail := by
  rw [written, zpow_sub₀ (by norm_num), zpow_natCast]
  ring

/-- The nearest decimal rounds the number that is written, but for zeros that a
power of ten puts behind its digits. -/
theorem nearest_rounds (h : nearest text = .ok d) :
    ∃ k : ℤ, ∃ j : Nat, d.mantissa = k * 10 ^ j ∧ Rounds (written text / 10 ^ j) ⟨k, d.scale⟩ := by
  rw [written_eq]
  unfold nearest at h
  split at h
  · rename_i hd
    refine ⟨d.mantissa, 0, by simp, ?_⟩
    have htake : text.takeWhile (!marksExponent ·) = text := by
      conv_rhs => rw [← List.takeWhile_append_dropWhile (p := (!marksExponent ·)) (l := text), hd,
        List.append_nil]
    rw [hd, htake]
    simpa [signed, Digits.spelled] using plain_rounds h
  · rename_i c exponent hd
    simp only [bind, Except.bind] at h
    rw [hd, List.tail_cons]
    cases hp : plain (text.takeWhile (!marksExponent ·)) with
    | error cause => simp [hp] at h
    | ok e =>
      have hr := plain_rounds hp
      simp only [hp] at h
      split at h
      · rename_i digits
        cases hn : exponent? digits with
        | none => simp [hn] at h
        | some n =>
          have hpower : signed ('-' :: digits) = -(n : ℤ) := by
            rw [signed, List.head?_cons, if_pos rfl, List.filter_cons_of_neg (by decide),
              spelled_of_exponent? hn, neg_one_mul]
          refine ⟨d.mantissa, 0, by simp, ?_⟩
          rw [hpower, zpow_neg, zpow_natCast, ← div_eq_mul_inv, pow_zero, div_one]
          exact lower_rounds hr (by simpa [hn] using h)
      · rename_i hminus
        cases hn : exponent? exponent with
        | none => simp [hn] at h
        | some n =>
          have hhead : exponent.head? ≠ some '-' := by
            intro hh
            obtain ⟨cs, rfl⟩ := List.head?_eq_some_iff.mp hh
            exact hminus cs rfl
          have hpower : signed exponent = n := by
            rw [signed, if_neg hhead, spelled_of_exponent? hn, one_mul]
          rw [hpower, zpow_natCast]
          exact raise_rounds hr (by simpa [hn] using h)

-- ---------------------------------------------------------------------------
-- The digits that are compared
-- ---------------------------------------------------------------------------

theorem abs_signed (text : Text) : |signed text| = Digits.spelled (text.filter Text.isDigit) := by
  rw [signed]
  split_ifs <;> simp

theorem exists_abs_written (text : Text) : ∃ z : ℤ, |written text| =
    Digits.spelled ((text.takeWhile (!marksExponent ·)).filter Text.isDigit) * 10 ^ z := by
  refine ⟨signed (text.dropWhile (!marksExponent ·)).tail -
    fractionDigits (text.takeWhile (!marksExponent ·)), ?_⟩
  rw [written, abs_mul, abs_of_pos (zpow_pos (by norm_num : (0 : ℚ) < 10) _), ← Int.cast_abs,
    abs_signed, Int.cast_natCast]

theorem significant_ofNat (n : Nat) :
    significant (Text.ofNat n) = Digits.trimmed (Text.ofNat n) := by
  obtain ⟨c, cs, hcs, hall⟩ := Text.exists_ofNat n
  rw [← hcs] at hall
  have htake : (Text.ofNat n).takeWhile (!marksExponent ·) = Text.ofNat n := by
    refine List.takeWhile_eq_self_iff.mpr fun c hc => not_marksExponent ?_
    rw [Digits.worthIn?_of_isDigit (hall c hc)]
    exact Option.some_ne_none _
  unfold significant
  rw [htake, List.filter_eq_self.mpr hall]
  rfl

/-- The nearest decimal is the number that is written if it has its significant
digits, and not otherwise. -/
theorem significant_eq_iff (h : nearest text = .ok d) :
    significant text = significant (Text.ofNat d.mantissa.natAbs) ↔ d.toRat = written text := by
  obtain ⟨k, j, hm, hr⟩ := nearest_rounds h
  obtain ⟨y, hy⟩ := exists_abs_written text
  have hdigits : significant text = Digits.trimmed
      ((text.takeWhile (!marksExponent ·)).filter Text.isDigit) := rfl
  have hall : ∀ c ∈ (text.takeWhile (!marksExponent ·)).filter Text.isDigit, Text.isDigit c :=
    fun c hc => (List.mem_filter.mp hc).2
  obtain ⟨c, cs, hcs, hprinted⟩ := Text.exists_ofNat d.mantissa.natAbs
  rw [← hcs] at hprinted
  rw [hdigits, significant_ofNat, Digits.trimmed_eq_iff hall hprinted, Digits.spelled_ofNat,
    Digits.sameDigits_iff]
  have hscale : (0 : ℚ) < 10 ^ d.scale := by positivity
  have hj : (0 : ℚ) < 10 ^ j := by positivity
  constructor
  · rintro ⟨z, hz⟩
    have hmagnitude : (k.natAbs : ℚ) * 10 ^ j = d.mantissa.natAbs := by
      rw [hm, Int.natAbs_mul, Int.natAbs_pow]
      push_cast
      rfl
    have hk : (k.natAbs : ℚ) = |written text / 10 ^ j| * 10 ^ (z - y) := by
      rw [abs_div, abs_of_pos hj, hy, div_mul_eq_mul_div, eq_div_iff hj.ne', hmagnitude, hz,
        mul_assoc, ← zpow_add₀ (by norm_num), add_sub_cancel]
    have hq := hr.eq_of_pow hk
    rw [div_mul_eq_mul_div, div_eq_iff hj.ne'] at hq
    rw [Decimal.toRat, div_eq_iff hscale.ne', hq, hm]
    push_cast
    rfl
  · intro hq
    refine ⟨y + d.scale, ?_⟩
    rw [zpow_add₀ (by norm_num), ← mul_assoc, ← hy, ← hq, Decimal.toRat, abs_div, abs_of_pos hscale,
      zpow_natCast, div_mul_cancel₀ _ hscale.ne', Nat.cast_natAbs, Int.cast_abs]

-- ---------------------------------------------------------------------------
-- Lost digits
-- ---------------------------------------------------------------------------

theorem Reading.round_ne_tooPrecise {r : Reading} {c : Char} : r.round c ≠ .error .tooPrecise := by
  unfold Reading.round
  split
  · split_ifs <;> simp
  · split_ifs <;> simp

theorem Reading.finish_ne_tooPrecise {r : Reading} : r.finish text ≠ .error .tooPrecise := by
  induction text generalizing r with
  | nil =>
    rw [Reading.finish]
    split_ifs <;> simp
  | cons c cs ih =>
    rw [Reading.finish]
    by_cases hmax : r.scale = Decimal.maxScale
    · rw [if_pos hmax]
      exact Reading.round_ne_tooPrecise
    rw [if_neg hmax]
    cases Digits.worthIn? 10 c with
    | some d =>
      dsimp only
      by_cases hfits : r.mantissa * 10 + d < Decimal.mantissaBound
      · rw [if_pos hfits]
        exact ih
      · rw [if_neg hfits]
        split_ifs
        · exact Reading.round_ne_tooPrecise
        · simp
    | none =>
      dsimp only
      split_ifs
      · simp
      · simp
      · exact ih

theorem plain_ne_tooPrecise : plain text ≠ .error .tooPrecise := by
  unfold plain
  split_ifs
  · simp
  · intro h
    cases hf : Reading.finish ⟨0, 0, false, false⟩ (splitSign text).2 with
    | ok r => simp [hf, Except.map] at h
    | error cause =>
      obtain rfl : cause = .tooPrecise := by simpa [hf, Except.map] using h
      exact Reading.finish_ne_tooPrecise hf

theorem lower_ne_tooPrecise : lower d n ≠ .error .tooPrecise := by
  unfold lower
  split_ifs <;> simp

theorem raise_ne_tooPrecise : raise d n ≠ .error .tooPrecise := by
  unfold raise
  dsimp only
  split_ifs <;> simp

/-- Only `read` finds that digits were lost. -/
theorem nearest_ne_tooPrecise : nearest text ≠ .error .tooPrecise := by
  intro h
  unfold nearest at h
  split at h
  · exact plain_ne_tooPrecise h
  · simp only [bind, Except.bind] at h
    cases hp : plain (text.takeWhile (!marksExponent ·)) with
    | error cause =>
      obtain rfl : cause = .tooPrecise := by simpa [hp] using h
      exact plain_ne_tooPrecise hp
    | ok e =>
      simp only [hp] at h
      split at h
      · split at h
        · simp at h
        · exact lower_ne_tooPrecise h
      · split at h
        · simp at h
        · exact raise_ne_tooPrecise h

/-- Reading a text gives the number that is written in it or none. -/
structure Exact (text : Text) : Prop where
  number : ∀ d, read text = .ok d ↔
    nearest (withoutSeparators text) = .ok d ∧ d.toRat = written (withoutSeparators text)
  lost : read text = .error .tooPrecise ↔
    ∃ d, nearest (withoutSeparators text) = .ok d ∧ d.toRat ≠ written (withoutSeparators text)
  malformed : ∀ cause, cause ≠ .tooPrecise →
    (read text = .error cause ↔ nearest (withoutSeparators text) = .error cause)

theorem read_exact (text : Text) : Exact text := by
  cases hn : nearest (withoutSeparators text) with
  | error cause =>
    have hread : read text = .error cause := by simp [read, hn, bind, Except.bind]
    have hcause : cause ≠ .tooPrecise := by
      rintro rfl
      exact nearest_ne_tooPrecise hn
    constructor <;> simp [hread, hn, hcause]
  | ok e =>
    have hsignificant := significant_eq_iff hn
    by_cases hexact : e.toRat = written (withoutSeparators text)
    · have hread : read text = .ok e := by
        simp only [read, hn, bind, Except.bind]
        rw [if_pos (hsignificant.mpr hexact)]
        rfl
      constructor <;> simp [hread, hn, hexact]
    · have hread : read text = .error .tooPrecise := by
        simp only [read, hn, bind, Except.bind]
        rw [if_neg (mt hsignificant.mp hexact)]
      constructor
      · simp [hread, hn, hexact]
      · simp [hread, hn, hexact]
      · intro cause hne
        simp [hread, hn, hne.symm]

-- Zeros beyond the longest fraction are nothing lost; another digit there is.
example : read "1.0e-28".toList = .ok ⟨1, 28⟩ := by decide
example : read "1.5e-28".toList = .error .tooPrecise := by decide

end DecimalLiteral

end LineFilter
