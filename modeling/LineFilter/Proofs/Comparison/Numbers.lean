import LineFilter.Proofs.Comparison.Sides

/-!
# Numbers among themselves and in columns

Two numbers compare as the rationals that they are, whichever of the two types
each of them has. A column that meets a number compares as if its text stood
there as a literal of that type, or does not compare if it is no such literal.
-/

namespace LineFilter

namespace Decimal

@[simp] theorem toRat_ofInt (n : Int) : (ofInt n).toRat = n := by
  simp [ofInt, toRat]

theorem order_eq_compare (a b : Decimal) : a.order b = compare a.toRat b.toRat := by
  have hle : (a.order b).isLE ↔ a.toRat ≤ b.toRat := order_isLE
  have hge : (a.order b).swap.isLE ↔ b.toRat ≤ a.toRat := by
    rw [← Std.OrientedCmp.eq_swap]
    exact order_isLE
  rcases lt_trichotomy a.toRat b.toRat with h | h | h
  · rw [compare_lt_iff_lt.mpr h]
    cases ho : a.order b <;> simp_all [h.not_ge]
  · rw [compare_eq_iff_eq.mpr h]
    cases ho : a.order b <;> simp_all
  · rw [compare_gt_iff_gt.mpr h]
    cases ho : a.order b <;> simp_all [h.not_ge]

end Decimal

namespace Value

variable {clock : Clock} {a b v x : Value} {t : Text} {p q : ℚ}

/-- The number that a value is. -/
def number? : Value → Option ℚ
  | .integer _ n => some n
  | .decimal _ d => some d.toRat
  | _ => none

/-- The literal that a text is beside a number: of the same type or, beside a
decimal, an integer if it is no decimal. -/
def literalBeside (t : Text) : Value → Option Value
  | .integer _ _ => (ofInteger t).toOption
  | .decimal _ _ => (ofDecimal t).toOption <|> (ofInteger t).toOption
  | _ => none

theorem order_of_number? (ha : a.number? = some p) (hb : b.number? = some q) :
    a.order clock b = some (compare p q) := by
  have hint (m n : Int) : compare m n = compare (m : ℚ) n := by
    rw [← Decimal.order_ofInt, Decimal.order_eq_compare, Decimal.toRat_ofInt, Decimal.toRat_ofInt]
  cases a <;> cases ha <;> cases b <;> cases hb <;>
    simp [order, typed?, Typed.order, Decimal.order_eq_compare, hint]

theorem ofInteger_toOption (t : Text) :
    (ofInteger t).toOption = (IntegerLiteral.read? t).map (.integer t) := by
  unfold ofInteger
  split <;> simp_all [Except.toOption]

theorem ofDecimal_toOption (t : Text) :
    (ofDecimal t).toOption = (DecimalLiteral.read t).toOption.map (.decimal t) := by
  unfold ofDecimal
  split <;> simp_all [Except.toOption]

/-- What a text is read as beside a number is the number of its literal there. -/
theorem order_untyped_of_number? (hv : v.number? = some q) :
    (untyped t).order clock v = ((literalBeside t v).bind number?).map (compare · q) := by
  cases v with
  | integer raw n =>
    have hself (m : Int) : (integer t m).order clock (integer raw n) = some (compare (m : ℚ) q) :=
      order_of_number? rfl hv
    rw [literalBeside, ofInteger_toOption]
    cases hm : IntegerLiteral.read? t with
    | none => simp [order, typed?, Typed.adopt, hm]
    | some m => simpa [order, typed?, Typed.adopt, hm, number?] using hself m
  | decimal raw d =>
    have hself (e : Decimal) :
        (decimal t e).order clock (decimal raw d) = some (compare e.toRat q) :=
      order_of_number? rfl hv
    rw [literalBeside, ofInteger_toOption, ofDecimal_toOption]
    cases he : (DecimalLiteral.read t).toOption with
    | some e => simpa [order, typed?, Typed.adopt, he, number?] using hself e
    | none =>
      cases hm : IntegerLiteral.read? t with
      | none => simp [order, typed?, Typed.adopt, he, hm]
      | some m => simpa [order, typed?, Typed.adopt, he, hm, number?] using hself (.ofInt m)
  | _ => cases hv

theorem number?_of_literalBeside (h : literalBeside t v = some x) : ∃ p, x.number? = some p := by
  cases v with
  | integer raw n =>
    rw [literalBeside, ofInteger_toOption] at h
    obtain ⟨m, -, rfl⟩ := Option.map_eq_some_iff.mp h
    exact ⟨m, rfl⟩
  | decimal raw d =>
    rw [literalBeside, ofInteger_toOption, ofDecimal_toOption] at h
    rw [Option.orElse_eq_orElse, Option.orElse_eq_or, Option.or_eq_some_iff] at h
    rcases h with h | ⟨-, h⟩
    · obtain ⟨e, -, rfl⟩ := Option.map_eq_some_iff.mp h
      exact ⟨e.toRat, rfl⟩
    · obtain ⟨m, -, rfl⟩ := Option.map_eq_some_iff.mp h
      exact ⟨m, rfl⟩
  | _ => cases h

/-- How numbers compare, among themselves and with columns. -/
structure ComparesNumbers (clock : Clock) : Prop where
  /-- Two numbers of any types compare as rationals. -/
  exact : ∀ (a b : Value) (p q : ℚ), a.number? = some p → b.number? = some q →
    a.order clock b = some (compare p q)
  /-- A column compares as the literal of its text does, on either side. -/
  column : ∀ (t : Text) (v : Value) (q : ℚ), v.number? = some q → ∀ x, literalBeside t v = some x →
    (untyped t).order clock v = x.order clock v ∧ v.order clock (untyped t) = v.order clock x ∧
      ∃ p, x.number? = some p ∧ (untyped t).order clock v = some (compare p q)
  /-- A text that is no literal does not compare. -/
  refused : ∀ (t : Text) (v : Value) (q : ℚ), v.number? = some q → literalBeside t v = none →
    (untyped t).order clock v = none ∧ v.order clock (untyped t) = none

theorem comparesNumbers (clock : Clock) : ComparesNumbers clock where
  exact _ _ _ _ := order_of_number?
  column t v q hv x hx := by
    obtain ⟨p, hp⟩ := number?_of_literalBeside hx
    have hcolumn : (untyped t).order clock v = some (compare p q) := by
      simp [order_untyped_of_number? hv, hx, hp]
    have hliteral : x.order clock v = some (compare p q) := order_of_number? hp hv
    refine ⟨hcolumn.trans hliteral.symm, ?_, p, hp, hcolumn⟩
    rw [order_swap, hcolumn, ← hliteral, ← order_swap]
  refused t v q hv hx := by
    have hcolumn : (untyped t).order clock v = none := by
      simp [order_untyped_of_number? hv, hx]
    refine ⟨hcolumn, ?_⟩
    rw [order_swap, hcolumn]
    rfl

end Value

end LineFilter
