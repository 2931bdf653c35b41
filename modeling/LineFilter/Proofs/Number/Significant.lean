import Mathlib.Data.List.DropRight
import Mathlib.Data.Rat.Cast.Order
import Mathlib.Tactic.Positivity
import Mathlib.Tactic.Ring
import LineFilter.Proofs.Number.Readers

/-!
# Significant digits

A run of digits without the zeros at its ends says which number the run spells
up to a power of ten, and no more: two runs have the same significant digits
exactly if their numbers differ by zeros written behind them.
-/

namespace LineFilter.Digits

/-- The number that the digits spell. -/
def spelled (digits : Text) : Nat := Nat.ofDigitChars 10 digits 0

/-- The digits without the zeros at either end. -/
def trimmed (digits : Text) : Text :=
  (digits.dropWhile (· = '0')).rdropWhile (· = '0')

variable {digits left right : Text}

theorem spelled_append :
    spelled (left ++ right) = spelled left * 10 ^ right.length + spelled right := by
  rw [spelled, Nat.ofDigitChars_append, Nat.ofDigitChars_eq_ofDigitChars_zero, Nat.mul_comm]
  rfl

theorem spelled_concat (c : Char) :
    spelled (digits ++ [c]) = 10 * spelled digits + (c.toNat - 48) := by
  rw [spelled, Nat.ofDigitChars_append, Nat.ofDigitChars_cons, Nat.ofDigitChars_nil]
  rfl

@[simp] theorem spelled_ofNat (n : Nat) : spelled (Text.ofNat n) = n :=
  Nat.ofDigitChars_ten_toDigits

theorem spelled_zeros (h : ∀ c ∈ digits, c = '0') : spelled digits = 0 := by
  rw [List.eq_replicate_of_mem h, spelled, Nat.ofDigitChars_replicate_zero, Nat.mul_zero]

-- ---------------------------------------------------------------------------
-- Digits and their printed form
-- ---------------------------------------------------------------------------

theorem digitChar_of_isDigit {c : Char} (h : Text.isDigit c) :
    c.toNat - 48 < 10 ∧ Nat.digitChar (c.toNat - 48) = c := by
  have hc := Text.toNat_of_isDigit h
  have hlt : c.toNat - 48 < 10 := by omega
  refine ⟨hlt, Char.toNat_inj.mp ?_⟩
  rw [Nat.toNat_digitChar_of_lt_ten hlt]
  omega

theorem worthIn?_cases (c : Char) :
    (Text.isDigit c ∧ worthIn? 10 c = some (c.toNat - 48) ∧ c.toNat - 48 < 10) ∨
      (¬ Text.isDigit c ∧ worthIn? 10 c = none) := by
  by_cases h : Text.isDigit c
  · exact .inl ⟨h, worthIn?_of_isDigit h, (digitChar_of_isDigit h).1⟩
  · refine .inr ⟨h, ?_⟩
    have hw : ¬ ('0' ≤ c && c ≤ '9') := h
    rw [worthIn?, worth?, if_neg hw]
    split_ifs <;> simp

theorem spelled_of_read? {n : Nat} (h : read? 10 digits = some n) :
    spelled (digits.filter Text.isDigit) = n := by
  obtain ⟨-, worths, hw, rfl⟩ := read?_eq_some.mp h
  have hall : ∀ c ∈ digits, Text.isDigit c := by
    intro c hc
    rcases worthIn?_cases c with ⟨hd, -⟩ | ⟨-, hn⟩
    · exact hd
    · exact absurd hn (worthIn?_of_mapM hw hc)
  rw [mapM_worthIn?_digits hall, Option.some.injEq] at hw
  rw [List.filter_eq_self.mpr hall, ← hw, extend_digits, spelled]

/-- Digits behind no zero are the number that they spell, as it is printed. -/
theorem ofNat_spelled (hd : ∀ c ∈ digits, Text.isDigit c) (hne : digits ≠ [])
    (hz : digits.head? ≠ some '0') : Text.ofNat (spelled digits) = digits := by
  induction digits using List.reverseRecOn with
  | nil => exact absurd rfl hne
  | append_singleton ds c ih =>
    obtain ⟨hlt, hc⟩ := digitChar_of_isDigit (hd c (by simp))
    rw [spelled_concat, Text.ofNat]
    by_cases hds : ds = []
    · rw [hds, spelled, Nat.ofDigitChars_nil, Nat.mul_zero, Nat.zero_add,
        Nat.toDigits_of_lt_base hlt, hc]
      rfl
    · have hzs : ds.head? ≠ some '0' := by rwa [List.head?_append_of_ne_nil _ hds] at hz
      have hprint := ih (fun d h => hd d (by simp [h])) hds hzs
      have hpos : 0 < spelled ds := by
        rw [Nat.pos_iff_ne_zero]
        intro h0
        rw [h0] at hprint
        exact hzs (by rw [← hprint]; decide)
      rw [← Nat.toDigits_append_toDigits (by decide) hpos hlt, Nat.toDigits_of_lt_base hlt, hc]
      exact congrArg (· ++ [c]) hprint

-- ---------------------------------------------------------------------------
-- Runs without zeros at their ends
-- ---------------------------------------------------------------------------

/-- Digits of which neither the first nor the last is a zero. -/
structure Trimmed (digits : Text) : Prop where
  digit : ∀ c ∈ digits, Text.isDigit c
  head : digits.head? ≠ some '0'
  last : digits.getLast? ≠ some '0'

theorem trimmed_trimmed (h : ∀ c ∈ digits, Text.isDigit c) : Trimmed (trimmed digits) where
  digit := by
    intro c hc
    have hinfix := (List.rdropWhile_prefix _ _).subset hc
    exact h c ((List.dropWhile_suffix _).subset hinfix)
  head := by
    intro hz
    obtain ⟨rest, hrest⟩ := List.rdropWhile_prefix (· = '0') (digits.dropWhile (· = '0'))
    have hhead : (digits.dropWhile (· = '0')).head? = some '0' := by
      rw [← hrest, List.head?_append]
      exact congrArg (Option.or · rest.head?) hz
    simpa [hhead] using List.head?_dropWhile_not (· = '0') digits
  last := by
    intro hz
    have hne : trimmed digits ≠ [] := by
      intro h
      simp [h] at hz
    rw [List.getLast?_eq_some_getLast hne, Option.some.injEq] at hz
    exact List.rdropWhile_last_not _ _ hne (decide_eq_true hz)

/-- Trimming takes zeros away, and those at the end are a power of ten. -/
theorem spelled_trimmed (digits : Text) :
    ∃ n, spelled digits = spelled (trimmed digits) * 10 ^ n := by
  refine ⟨((digits.dropWhile (· = '0')).rtakeWhile (· = '0')).length, ?_⟩
  have hfront : spelled (digits.takeWhile (· = '0')) = 0 :=
    spelled_zeros fun c hc => by simpa using List.mem_takeWhile_imp hc
  have hback : spelled ((digits.dropWhile (· = '0')).rtakeWhile (· = '0')) = 0 :=
    spelled_zeros fun c hc => by simpa using List.mem_rtakeWhile_imp hc
  calc spelled digits
      = spelled (digits.dropWhile (· = '0')) := by
        conv_lhs => rw [← List.takeWhile_append_dropWhile (p := (· = '0')) (l := digits)]
        rw [spelled_append, hfront, Nat.zero_mul, Nat.zero_add]
    _ = spelled (trimmed digits) *
          10 ^ ((digits.dropWhile (· = '0')).rtakeWhile (· = '0')).length := by
        conv_lhs => rw [← List.rdropWhile_append_rtakeWhile (p := (· = '0'))
          (l := digits.dropWhile (· = '0'))]
        rw [spelled_append, hback, Nat.add_zero]
        rfl

theorem Trimmed.spelled_mod (h : Trimmed digits) (hne : digits ≠ []) : spelled digits % 10 ≠ 0 := by
  obtain ⟨ds, c, rfl⟩ := List.eq_nil_or_concat' digits |>.resolve_left hne
  have hc := Text.toNat_of_isDigit (h.digit c (by simp))
  have hz : c.toNat ≠ 48 := by
    intro hn
    exact h.last (by simpa using Char.toNat_inj.mp hn)
  rw [spelled_concat]
  omega

theorem Trimmed.spelled_eq_zero (h : Trimmed digits) : spelled digits = 0 ↔ digits = [] := by
  constructor
  · intro h0
    by_contra hne
    exact h.spelled_mod hne (by rw [h0])
  · rintro rfl
    rfl

-- ---------------------------------------------------------------------------
-- What trimmed digits say
-- ---------------------------------------------------------------------------

/-- The numbers are the same but for zeros behind their digits. -/
def SameDigits (m n : Nat) : Prop := ∃ i j : Nat, m * 10 ^ i = n * 10 ^ j

theorem sameDigits_iff {m n : Nat} : SameDigits m n ↔ ∃ z : ℤ, (n : ℚ) = m * 10 ^ z := by
  constructor
  · rintro ⟨i, j, h⟩
    refine ⟨i - j, ?_⟩
    have hq : (m : ℚ) * 10 ^ i = n * 10 ^ j := by exact_mod_cast h
    rw [zpow_sub₀ (by norm_num), zpow_natCast, zpow_natCast, ← mul_div_assoc, hq,
      mul_div_cancel_right₀ _ (by positivity)]
  · rintro ⟨z, h⟩
    obtain ⟨k, rfl | rfl⟩ := z.eq_nat_or_neg
    · refine ⟨k, 0, ?_⟩
      rw [zpow_natCast] at h
      exact_mod_cast (by rw [h, pow_zero, mul_one] : (m : ℚ) * 10 ^ k = n * 10 ^ 0)
    · refine ⟨0, k, ?_⟩
      rw [zpow_neg, zpow_natCast] at h
      have hq : (m : ℚ) * 10 ^ 0 = n * 10 ^ k := by
        rw [h, inv_mul_cancel_right₀ (by positivity), pow_zero, mul_one]
      exact_mod_cast hq

theorem SameDigits.eq_zero_iff {m n : Nat} (h : SameDigits m n) : m = 0 ↔ n = 0 := by
  obtain ⟨i, j, h⟩ := h
  have hi : 10 ^ i ≠ 0 := by simp
  have hj : 10 ^ j ≠ 0 := by simp
  constructor
  · rintro rfl
    rw [Nat.zero_mul] at h
    exact (Nat.mul_eq_zero.mp h.symm).resolve_right hj
  · rintro rfl
    rw [Nat.zero_mul] at h
    exact (Nat.mul_eq_zero.mp h).resolve_right hi

theorem le_of_mul_pow_eq {m n i j : Nat} (hm : m % 10 ≠ 0) (h : m * 10 ^ i = n * 10 ^ j) :
    j ≤ i := by
  by_contra hij
  obtain ⟨k, rfl⟩ := Nat.exists_eq_add_of_lt (Nat.lt_of_not_le hij)
  have hcancel : m = n * 10 ^ k * 10 := by
    refine Nat.eq_of_mul_eq_mul_right (Nat.pow_pos (by decide) : 0 < 10 ^ i) ?_
    rw [h]
    ring
  omega

theorem eq_of_mul_pow_eq {m n i j : Nat} (hm : m % 10 ≠ 0) (hn : n % 10 ≠ 0)
    (h : m * 10 ^ i = n * 10 ^ j) : m = n := by
  obtain rfl := Nat.le_antisymm (le_of_mul_pow_eq hn h.symm) (le_of_mul_pow_eq hm h)
  exact Nat.eq_of_mul_eq_mul_right (Nat.pow_pos (by decide)) h

/-- Trimmed digits are all that sets their number apart from others. -/
theorem Trimmed.eq_of_sameDigits (hl : Trimmed left) (hr : Trimmed right)
    (h : SameDigits (spelled left) (spelled right)) : left = right := by
  have hnil : left = [] ↔ right = [] := by
    rw [← hl.spelled_eq_zero, ← hr.spelled_eq_zero, h.eq_zero_iff]
  by_cases hleft : left = []
  · rw [hleft, hnil.mp hleft]
  · have hright : right ≠ [] := fun hn => hleft (hnil.mpr hn)
    obtain ⟨i, j, hij⟩ := h
    have hsame := eq_of_mul_pow_eq (hl.spelled_mod hleft) (hr.spelled_mod hright) hij
    rw [← ofNat_spelled hl.digit hleft hl.head, hsame, ofNat_spelled hr.digit hright hr.head]

/-- The significant digits of two runs are the same if their numbers are, up to
zeros behind them. -/
theorem trimmed_eq_iff (hl : ∀ c ∈ left, Text.isDigit c) (hr : ∀ c ∈ right, Text.isDigit c) :
    trimmed left = trimmed right ↔ SameDigits (spelled left) (spelled right) := by
  obtain ⟨a, ha⟩ := spelled_trimmed left
  obtain ⟨b, hb⟩ := spelled_trimmed right
  constructor
  · intro h
    refine ⟨b, a, ?_⟩
    rw [ha, hb, h]
    ring
  · rintro ⟨i, j, h⟩
    refine (trimmed_trimmed hl).eq_of_sameDigits (trimmed_trimmed hr) ⟨a + i, b + j, ?_⟩
    rw [pow_add, pow_add, ← Nat.mul_assoc, ← Nat.mul_assoc, ← ha, ← hb, h]

end LineFilter.Digits
