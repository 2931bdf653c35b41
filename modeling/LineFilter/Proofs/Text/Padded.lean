import LineFilter.Proofs.Number.Significant
import LineFilter.Time.Layout
import LineFilter.Value.Order

/-!
# Numbers with zeros in front

A number padded to a width is a run of that many digits, which a field of the
width reads back. Runs of one length stand in the order of the numbers they
spell, and texts that are put together from parts of the same lengths in the
order of their parts.
-/

namespace LineFilter

-- ---------------------------------------------------------------------------
-- Comparing by parts
-- ---------------------------------------------------------------------------

theorem compare_natCast (m n : Nat) : compare (m : Int) n = compare m n := by
  rcases Nat.lt_trichotomy m n with h | rfl | h
  · rw [Nat.compare_eq_lt.mpr h, Int.compare_eq_lt.mpr (Int.ofNat_lt.mpr h)]
  · simp
  · rw [Nat.compare_eq_gt.mpr h, Int.compare_eq_gt.mpr (Int.ofNat_lt.mpr h)]

theorem compare_add_right (a b k : Int) : compare (a + k) (b + k) = compare a b := by
  simp [compare, compareOfLessAndEq]

/-- Numbers are compared by what is in front of a digit of base `k` first. -/
theorem compare_mul_add {a b : Int} {s t k : Nat} (hs : s < k) (ht : t < k) :
    compare (a * k + s) (b * k + t) = (compare a b).then (compare s t) := by
  have hstep {a b : Int} {s t : Nat} (hs : s < k) (hab : a < b) : a * k + s < b * k + t := by
    have := Int.mul_le_mul_of_nonneg_right (Int.add_one_le_of_lt hab) (Int.natCast_nonneg k)
    rw [Int.add_mul] at this
    omega
  rcases Int.lt_trichotomy a b with h | rfl | h
  · rw [Int.compare_eq_lt.mpr h, Int.compare_eq_lt.mpr (hstep hs h)]
    rfl
  · rw [Int.compare_eq_eq.mpr rfl, Ordering.eq_then, ← compare_natCast s t, Int.add_comm (a * k),
      Int.add_comm (a * k), compare_add_right]
  · rw [Int.compare_eq_gt.mpr h, Int.compare_eq_gt.mpr (hstep ht h)]
    rfl

theorem compare_digit {a b s t k : Nat} (hs : s < k) (ht : t < k) :
    compare (a * k + s) (b * k + t) = (compare a b).then (compare s t) := by
  rw [← compare_natCast (_ + _), ← compare_natCast a]
  push_cast
  exact compare_mul_add hs ht

theorem compare_mul {a b k : Nat} (hk : 0 < k) : compare (a * k) (b * k) = compare a b := by
  simpa using compare_digit hk hk

namespace Text

variable {left right left' right' : Text}

/-- Texts with parts of one length in front are compared by those parts first. -/
theorem order_append (h : left.length = right.length) :
    order (left ++ left') (right ++ right') = (order left right).then (order left' right') := by
  induction left generalizing right with
  | nil =>
    obtain rfl := List.eq_nil_of_length_eq_zero h.symm
    rfl
  | cons c cs ih =>
    cases right with
    | nil => simp at h
    | cons d ds => simp [order, ih (Nat.succ.inj h), Ordering.then_assoc]

@[simp] theorem order_cons (c : Char) : order (c :: left) (c :: right) = order left right := by
  simp [order]

end Text

-- ---------------------------------------------------------------------------
-- Runs of digits
-- ---------------------------------------------------------------------------

namespace Digits

variable {digits left right : Text}

theorem spelled_cons (c : Char) :
    spelled (c :: digits) = (c.toNat - 48) * 10 ^ digits.length + spelled digits := by
  have hone : spelled [c] = c.toNat - 48 := by simp [spelled, Nat.ofDigitChars_cons]
  rw [← List.singleton_append, spelled_append, hone]

theorem spelled_lt (h : ∀ c ∈ digits, Text.isDigit c) : spelled digits < 10 ^ digits.length := by
  induction digits with
  | nil => simp [spelled]
  | cons c cs ih =>
    have hc := (digitChar_of_isDigit (h c (by simp))).1
    have hcs := ih fun d hd => h d (by simp [hd])
    rw [spelled_cons, List.length_cons, Nat.pow_succ]
    have := Nat.mul_le_mul_right (10 ^ cs.length) (Nat.le_of_lt_succ hc)
    omega

theorem read?_digits (h : ∀ c ∈ digits, Text.isDigit c) (hne : digits ≠ []) :
    read? 10 digits = some (spelled digits) :=
  read?_eq_some.mpr ⟨hne, _, mapM_worthIn?_digits h, extend_digits 0 digits⟩

/-- Runs of one length are in the order of what they spell. -/
theorem order_eq_compare (hl : ∀ c ∈ left, Text.isDigit c) (hr : ∀ c ∈ right, Text.isDigit c)
    (h : left.length = right.length) :
    Text.order left right = compare (spelled left) (spelled right) := by
  induction left generalizing right with
  | nil =>
    obtain rfl := List.eq_nil_of_length_eq_zero h.symm
    rfl
  | cons c cs ih =>
    cases right with
    | nil => simp at h
    | cons d ds =>
      have hlength : cs.length = ds.length := Nat.succ.inj h
      have hcs : ∀ e ∈ cs, Text.isDigit e := fun e he => hl e (by simp [he])
      have hds : ∀ e ∈ ds, Text.isDigit e := fun e he => hr e (by simp [he])
      have hdigit : compare c.toNat d.toNat = compare (c.toNat - 48) (d.toNat - 48) := by
        have hc := Text.toNat_of_isDigit (hl c (by simp))
        have hd := Text.toNat_of_isDigit (hr d (by simp))
        rw [← compare_natCast (c.toNat - 48), ← compare_natCast c.toNat, Nat.cast_sub hc.1,
          Nat.cast_sub hd.1]
        exact (compare_add_right _ _ (-48)).symm
      have hlt := spelled_lt hds
      rw [← hlength] at hlt
      rw [Text.order, ih hcs hds hlength, hdigit, spelled_cons, spelled_cons, ← hlength,
        compare_digit (spelled_lt hcs) hlt]

end Digits

-- ---------------------------------------------------------------------------
-- Padded numbers
-- ---------------------------------------------------------------------------

namespace Text

variable {width m n : Nat}

theorem isDigit_padded {c : Char} (h : c ∈ padded width n) : isDigit c := by
  rcases List.mem_append.mp h with hzero | hdigit
  · obtain rfl := List.eq_of_mem_replicate hzero
    rfl
  · obtain ⟨d, ds, hds, hall⟩ := exists_ofNat n
    exact hall c (hds ▸ hdigit)

theorem length_padded (hw : 0 < width) (hn : n < 10 ^ width) : (padded width n).length = width := by
  have : (ofNat n).length ≤ width := (Nat.length_toDigits_le_iff (by decide) hw).mpr hn
  simp only [padded, List.length_append, List.length_replicate]
  omega

theorem padded_eq_cons (width n : Nat) : ∃ d ds, padded width n = d :: ds ∧ isDigit d := by
  obtain ⟨e, es, hes, -⟩ := exists_ofNat n
  have hne : padded width n ≠ [] := by simp [padded, hes]
  obtain ⟨d, ds, hp⟩ := List.exists_cons_of_ne_nil hne
  exact ⟨d, ds, hp, isDigit_padded (by rw [hp]; exact List.mem_cons_self)⟩

theorem padded_eq_cons_cons (hw : 2 ≤ width) (n : Nat) :
    ∃ d e ds, padded width n = d :: e :: ds ∧ isDigit d ∧ isDigit e := by
  have hlength : 2 ≤ (padded width n).length := by
    simp only [padded, List.length_append, List.length_replicate]
    omega
  have hall : ∀ c ∈ padded width n, isDigit c := fun _ => isDigit_padded
  rcases hp : padded width n with _ | ⟨d, _ | ⟨e, ds⟩⟩
  · simp [hp] at hlength
  · simp [hp] at hlength
  · exact ⟨d, e, ds, rfl, hall d (by simp [hp]), hall e (by simp [hp])⟩

@[simp] theorem spelled_padded (width n : Nat) : Digits.spelled (padded width n) = n := by
  rw [padded, Digits.spelled_append, Digits.spelled_zeros fun c hc => List.eq_of_mem_replicate hc]
  simp

/-- Padded numbers of one width are in the order of the numbers. -/
theorem order_padded (hw : 0 < width) (hm : m < 10 ^ width) (hn : n < 10 ^ width) :
    order (padded width m) (padded width n) = compare m n := by
  rw [Digits.order_eq_compare (fun _ => isDigit_padded) (fun _ => isDigit_padded)]
  · simp
  · rw [length_padded hw hm, length_padded hw hn]

theorem order_padded_append (hw : 0 < width) (hm : m < 10 ^ width) (hn : n < 10 ^ width)
    (left right : Text) :
    order (padded width m ++ left) (padded width n ++ right) =
      (compare m n).then (order left right) := by
  rw [order_append (by rw [length_padded hw hm, length_padded hw hn]), order_padded hw hm hn]

end Text

/-- A field takes all of its width. -/
theorem NumberField.digits_padded {width n : Nat} (hw : 0 < width) (hn : n < 10 ^ width)
    (rest : Text) : digits width (Text.padded width n ++ rest) = some (n, rest) := by
  have hlength := Text.length_padded hw hn
  have hall : ∀ c ∈ Text.padded width n, Text.isDigit c := fun _ => Text.isDigit_padded
  obtain ⟨d, ds, hp, -⟩ := Text.padded_eq_cons width n
  have htake : ((Text.padded width n ++ rest).take width).takeWhile Text.isDigit =
      Text.padded width n := by
    rw [List.take_left' hlength, List.takeWhile_eq_self_iff.mpr hall]
  rw [digits, htake, Digits.read?_digits hall (by simp [hp])]
  simp

end LineFilter
