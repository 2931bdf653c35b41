import Mathlib.Data.List.TakeWhile
import LineFilter.Number.DecimalLiteral
import LineFilter.Text.Blank

/-!
# Two readers of numbers

Integers and decimals have readers of their own, and some texts are read by
both. Those are the integers in base ten: a decimal has no other base, and an
integer neither a point nor an exponent. Both readers see the same number, and
an integer is read back where it is printed.
-/

namespace LineFilter

-- ---------------------------------------------------------------------------
-- Digits, signs and bases
-- ---------------------------------------------------------------------------

namespace Digits

theorem read?_eq_some {base n : Nat} {text : Text} :
    read? base text = some n ↔
      text ≠ [] ∧ ∃ worths, text.mapM (worthIn? base) = some worths ∧ extend base 0 worths = n := by
  by_cases h : text = [] <;> simp [read?, h]

theorem worthIn?_of_mapM {base : Nat} {text : Text} {worths : List Nat}
    (h : text.mapM (worthIn? base) = some worths) {c : Char} (hc : c ∈ text) :
    worthIn? base c ≠ none := by
  induction text generalizing worths with
  | nil => simp at hc
  | cons x xs ih =>
    simp only [List.mapM_cons, Option.bind_eq_bind, Option.bind_eq_some_iff] at h
    obtain ⟨w, hw, ws, hws, -⟩ := h
    rcases List.mem_cons.mp hc with rfl | hc
    · simp [hw]
    · exact ih hws hc

end Digits

namespace IntegerLiteral

theorem splitSign_cons (c : Char) (cs : Text) :
    splitSign (c :: cs) =
      if c = '-' then (true, cs) else if c = '+' then (false, cs) else (false, c :: cs) := by
  unfold splitSign
  split <;> simp_all

theorem mem_splitSign {text : Text} {c : Char} (h : c ∈ text) :
    c = '-' ∨ c = '+' ∨ c ∈ (splitSign text).2 := by
  cases text with
  | nil => exact .inr (.inr h)
  | cons x xs =>
    rw [splitSign_cons]
    grind

theorem splitSign_takeWhile {p : Char → Bool} (hm : p '-') (hp : p '+') (text : Text) :
    splitSign (text.takeWhile p) = ((splitSign text).1, (splitSign text).2.takeWhile p) := by
  cases text with
  | nil => rfl
  | cons x xs =>
    rw [splitSign_cons]
    split_ifs with h h'
    · rw [h, List.takeWhile_cons_of_pos hm, splitSign_cons, if_pos rfl]
    · rw [h', List.takeWhile_cons_of_pos hp, splitSign_cons, if_neg (by decide), if_pos rfl]
    · cases hx : p x with
      | true => rw [List.takeWhile_cons_of_pos hx, splitSign_cons, if_neg h, if_neg h']
      | false => rw [List.takeWhile_cons_of_neg (by simp [hx])]; rfl

/-- A literal is in base ten, or its digits stand behind a letter. -/
theorem splitBase_cases (text : Text) :
    splitBase text = (10, text) ∨
      ∃ x ∈ ['x', 'X', 'b', 'B', 'o', 'O'], text = '0' :: x :: (splitBase text).2 := by
  fun_cases splitBase text <;> simp

theorem read?_eq_some {text : Text} {n : Int} :
    read? text = some n ↔
      ∃ m : Nat, Digits.read? (splitBase (splitSign (withoutSeparators text)).2).1
          (splitBase (splitSign (withoutSeparators text)).2).2 = some m ∧
        (if (splitSign (withoutSeparators text)).1 then -(m : Int) else m) = n ∧ fits n := by
  simp only [read?, Option.filter_eq_some_iff]
  cases Digits.read? (splitBase (splitSign (withoutSeparators text)).2).1
    (splitBase (splitSign (withoutSeparators text)).2).2 <;> simp

end IntegerLiteral

-- ---------------------------------------------------------------------------
-- Printed integers
-- ---------------------------------------------------------------------------

namespace Text

theorem isDigit_eq (c : Char) : isDigit c = c.isDigit := by
  simp [isDigit, Char.isDigit, Char.le_def]

theorem toNat_of_isDigit {c : Char} (h : isDigit c) : 48 ≤ c.toNat ∧ c.toNat ≤ 57 := by
  simpa [isDigit, Char.le_def, UInt32.le_iff_toNat_le] using h

theorem isBlank_of_isDigit {c : Char} (h : isDigit c) : isBlank c = false := by
  have hapart : CodeRanges.apart [(0x30, 0x39)] whiteSpace := by decide
  refine CodeRanges.not_has_of_apart hapart ?_
  simpa [CodeRanges.has] using toNat_of_isDigit h

theorem exists_ofNat (n : Nat) :
    ∃ d ds, ofNat n = d :: ds ∧ ∀ c ∈ d :: ds, isDigit c := by
  have hn : ofNat n ≠ [] := Nat.toDigits_ne_nil
  obtain ⟨d, ds, hds⟩ := List.exists_cons_of_ne_nil hn
  refine ⟨d, ds, hds, ?_⟩
  intro c hc
  rw [← hds] at hc
  rw [isDigit_eq]
  exact Nat.isDigit_of_mem_toDigits (by decide) (by decide) hc

end Text

namespace Digits

theorem worthIn?_of_isDigit {c : Char} (h : Text.isDigit c) :
    worthIn? 10 c = some (c.toNat - '0'.toNat) := by
  have hc := Text.toNat_of_isDigit h
  have hw : worth? c = some (c.toNat - '0'.toNat) := if_pos h
  have h10 : c.toNat - '0'.toNat < 10 := by
    show c.toNat - 48 < 10
    omega
  rw [worthIn?, hw, Option.filter_some, if_pos (by simpa using h10)]

theorem mapM_worthIn?_digits {text : Text} (h : ∀ c ∈ text, Text.isDigit c) :
    text.mapM (worthIn? 10) = some (text.map fun c => c.toNat - '0'.toNat) := by
  induction text with
  | nil => rfl
  | cons c cs ih =>
    rw [List.mapM_cons, worthIn?_of_isDigit (h c List.mem_cons_self),
      ih fun d hd => h d (List.mem_cons_of_mem c hd)]
    rfl

theorem extend_digits (n : Nat) (text : Text) :
    extend 10 n (text.map fun c => c.toNat - '0'.toNat) = Nat.ofDigitChars 10 text n := by
  rw [extend, List.foldl_map, Nat.ofDigitChars]
  simp only [Nat.mul_comm]

theorem read?_ofNat (n : Nat) : read? 10 (Text.ofNat n) = some n := by
  obtain ⟨d, ds, hds, hall⟩ := Text.exists_ofNat n
  rw [read?_eq_some]
  refine ⟨by simp [hds], _, mapM_worthIn?_digits (hds ▸ hall), ?_⟩
  rw [extend_digits]
  exact Nat.ofDigitChars_ten_toDigits

end Digits

namespace IntegerLiteral

theorem splitBase_of_digits {text : Text} (h : ∀ c ∈ text, Text.isDigit c) :
    splitBase text = (10, text) := by
  rcases splitBase_cases text with hb | ⟨x, hx, hb⟩
  · exact hb
  · have hmem : x ∈ text := by
      rw [hb]
      simp
    have hletter : ¬ Text.isDigit x := by
      simp only [List.mem_cons, List.not_mem_nil, or_false] at hx
      rcases hx with rfl | rfl | rfl | rfl | rfl | rfl <;> decide
    exact absurd (h x hmem) hletter

theorem splitSign_of_digits {text : Text} (h : ∀ c ∈ text, Text.isDigit c) :
    splitSign text = (false, text) := by
  cases text with
  | nil => rfl
  | cons c cs =>
    have hc := h c List.mem_cons_self
    rw [splitSign_cons, if_neg, if_neg] <;> rintro rfl <;> exact absurd hc (by decide)

theorem withoutSeparators_of_digits {text : Text} (h : ∀ c ∈ text, Text.isDigit c) :
    withoutSeparators text = text := by
  rw [withoutSeparators, List.filter_eq_self]
  intro c hc
  rw [decide_eq_true_eq]
  rintro rfl
  exact absurd (h _ hc) (by decide)

/-- An integer is read where it is printed. -/
theorem read?_ofInt {n : Int} (h : fits n) : read? (Text.ofInt n) = some n := by
  rw [read?_eq_some]
  cases n with
  | ofNat n =>
    obtain ⟨d, ds, hds, hall⟩ := Text.exists_ofNat n
    refine ⟨n, ?_, ?_, h⟩
    all_goals rw [Text.ofInt, hds, withoutSeparators_of_digits hall, splitSign_of_digits hall]
    · rw [splitBase_of_digits hall, ← hds]
      exact Digits.read?_ofNat n
    · rfl
  | negSucc n =>
    obtain ⟨d, ds, hds, hall⟩ := Text.exists_ofNat (n + 1)
    have hsign : splitSign (withoutSeparators ('-' :: d :: ds)) = (true, d :: ds) := by
      rw [withoutSeparators, List.filter_cons_of_pos (by decide)]
      exact congrArg (Prod.mk true) (withoutSeparators_of_digits hall)
    refine ⟨n + 1, ?_, ?_, h⟩
    all_goals rw [Text.ofInt, hds, hsign]
    · rw [splitBase_of_digits hall, ← hds]
      exact Digits.read?_ofNat (n + 1)
    · rfl

end IntegerLiteral

-- ---------------------------------------------------------------------------
-- The readers agree
-- ---------------------------------------------------------------------------

namespace DecimalLiteral

open IntegerLiteral (splitSign splitBase withoutSeparators)

theorem zero_ne_maxScale : 0 ≠ Decimal.maxScale := by
  decide

/-- Digits alone leave the scale as it is, and spell the mantissa. -/
theorem finish_digits {worths : List Nat} {text : Text} {m n scale : Nat} {seen : Bool}
    (hw : text.mapM (Digits.worthIn? 10) = some worths)
    (hf : Reading.finish ⟨m, 0, false, seen⟩ text = .ok (n, scale)) :
    n = Digits.extend 10 m worths ∧ scale = 0 := by
  induction text generalizing worths m seen with
  | nil =>
    obtain rfl : [] = worths := by simpa using hw
    cases seen with
    | false => simp [Reading.finish] at hf
    | true =>
      obtain ⟨rfl, rfl⟩ : m = n ∧ 0 = scale := by simpa [Reading.finish] using hf
      exact ⟨rfl, rfl⟩
  | cons c cs ih =>
    simp only [List.mapM_cons, Option.bind_eq_bind, Option.bind_eq_some_iff, Option.pure_def,
      Option.some.injEq] at hw
    obtain ⟨d, hd, ds, hds, rfl⟩ := hw
    rw [Reading.finish, if_neg zero_ne_maxScale] at hf
    simp only [hd] at hf
    split at hf
    · obtain ⟨hn, hs⟩ := ih hds hf
      exact ⟨hn, hs⟩
    · simp at hf

/-- The letter of a base is no part of a decimal. -/
theorem finish_letter {x : Char} {cs : Text} (hx : Digits.worthIn? 10 x = none) (hp : x ≠ '.') :
    Reading.finish ⟨0, 0, false, false⟩ ('0' :: x :: cs) = .error .unknownCharacter := by
  have h0 : Digits.worthIn? 10 '0' = some 0 := by decide
  rw [Reading.finish, if_neg (by decide)]
  simp only [h0]
  rw [if_pos (by decide), Reading.finish, if_neg (by decide)]
  simp only [hx]
  rw [if_pos hp]

theorem plain_eq_ok {text : Text} {d : Decimal} (h : plain text = .ok d) :
    ∃ n : Nat, Reading.finish ⟨0, 0, false, false⟩ (splitSign text).2 = .ok (n, d.scale) ∧
      d.mantissa = if (splitSign text).1 then -(n : Int) else n := by
  unfold plain at h
  split at h
  · simp at h
  · cases hf : Reading.finish ⟨0, 0, false, false⟩ (splitSign text).2 with
    | error cause => simp [hf, Except.map] at h
    | ok r =>
      obtain rfl : _ = d := by simpa [hf, Except.map] using h
      exact ⟨r.1, rfl, rfl⟩

/-- A decimal is plain up to its exponent, and plain if it has none. -/
theorem plain_of_nearest {text : Text} {d : Decimal} (h : nearest text = .ok d) :
    ∃ e, plain (text.takeWhile (!marksExponent ·)) = .ok e ∧
      (text.dropWhile (!marksExponent ·) = [] → e = d) := by
  unfold nearest at h
  split at h
  · rename_i hd
    refine ⟨d, ?_, fun _ => rfl⟩
    rwa [← List.takeWhile_append_dropWhile (p := (!marksExponent ·)) (l := text), hd,
      List.append_nil] at h
  · rename_i c exponent hd
    cases he : plain (text.takeWhile (!marksExponent ·)) with
    | error cause => simp [he, bind, Except.bind] at h
    | ok e =>
      refine ⟨e, rfl, ?_⟩
      intro hn
      simp [hn] at hd

theorem nearest_of_read {text : Text} {d : Decimal} (h : read text = .ok d) :
    nearest (withoutSeparators text) = .ok d := by
  unfold read at h
  cases hn : nearest (withoutSeparators text) with
  | error cause => simp [hn, bind, Except.bind] at h
  | ok e =>
    simp only [hn, bind, Except.bind] at h
    split at h
    · exact h
    · simp at h

theorem not_marksExponent {c : Char} (h : Digits.worthIn? 10 c ≠ none) : !marksExponent c := by
  rw [Bool.not_eq_true', marksExponent, Bool.or_eq_false_iff, decide_eq_false_iff_not,
    decide_eq_false_iff_not]
  constructor <;> rintro rfl <;> exact h (by decide)

theorem letter_of_base {x : Char} (h : x ∈ ['x', 'X', 'b', 'B', 'o', 'O']) :
    Digits.worthIn? 10 x = none ∧ x ≠ '.' ∧ !marksExponent x := by
  simp only [List.mem_cons, List.not_mem_nil, or_false] at h
  rcases h with rfl | rfl | rfl | rfl | rfl | rfl <;> decide

/-- A decimal and an integer that are written the same are the same number. -/
theorem read_eq_ofInt {text : Text} {n : Int} {d : Decimal}
    (hn : IntegerLiteral.read? text = some n) (hd : read text = .ok d) : d = .ofInt n := by
  obtain ⟨e, he, hed⟩ := plain_of_nearest (nearest_of_read hd)
  obtain ⟨magnitude, hm, rfl, -⟩ := IntegerLiteral.read?_eq_some.mp hn
  generalize withoutSeparators text = cleaned at *
  obtain ⟨mantissa, hf, hmantissa⟩ := plain_eq_ok he
  simp only [IntegerLiteral.splitSign_takeWhile (p := (!marksExponent ·)) (by decide) (by decide)]
    at hf hmantissa
  rcases IntegerLiteral.splitBase_cases (splitSign cleaned).2 with hb | ⟨x, hx, hb⟩
  · -- In base ten nothing sets off an exponent, and both read the same digits.
    rw [hb] at hm
    obtain ⟨-, worths, hw, rfl⟩ := Digits.read?_eq_some.mp hm
    have hplain : ∀ c ∈ cleaned, !marksExponent c := by
      intro c hc
      rcases IntegerLiteral.mem_splitSign hc with rfl | rfl | hc
      · decide
      · decide
      · exact not_marksExponent (Digits.worthIn?_of_mapM hw hc)
    obtain rfl := hed (List.dropWhile_eq_nil_iff.mpr hplain)
    have hdigits : (splitSign cleaned).2.takeWhile (!marksExponent ·) = (splitSign cleaned).2 :=
      List.takeWhile_eq_self_iff.mpr fun c hc =>
        not_marksExponent (Digits.worthIn?_of_mapM hw hc)
    rw [hdigits] at hf
    obtain ⟨rfl, hscale⟩ := finish_digits hw hf
    cases e
    simp only at hscale hmantissa
    rw [hscale, hmantissa]
    rfl
  · -- In another base the letter stops the decimal.
    obtain ⟨hworth, hpoint, hmark⟩ := letter_of_base hx
    have hzero : !marksExponent '0' := by decide
    rw [hb] at hf
    simp only [List.takeWhile_cons, hzero, hmark, if_true] at hf
    rw [finish_letter hworth hpoint] at hf
    simp at hf

end DecimalLiteral

end LineFilter
