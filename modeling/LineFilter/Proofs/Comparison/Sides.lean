import Mathlib.Algebra.Order.Field.Basic
import Mathlib.Algebra.Order.Field.Rat
import LineFilter.Value.Order

/-!
# The two sides of a comparison

Texts, decimals and instants have total preorders, and values of one type have
the order of what they are compared by. `Value.sides` says what that is: text
without a type is read as the type of the other side first.
-/

namespace LineFilter

-- ---------------------------------------------------------------------------
-- The orders
-- ---------------------------------------------------------------------------

theorem Text.order_eq_compareLex : Text.order = List.compareLex (compareOn Char.toNat) := by
  funext a b
  induction a generalizing b with
  | nil => cases b <;> rfl
  | cons c cs ih =>
    cases b with
    | nil => rfl
    | cons d ds =>
      rw [Text.order, ih, List.compareLex_cons_cons]
      rfl

instance : Std.TransCmp Text.order := by
  rw [Text.order_eq_compareLex]
  infer_instance

instance : Std.TransCmp Instant.order :=
  inferInstanceAs (Std.TransCmp (compareLex (compareOn Instant.second) (compareOn Instant.nano)))

namespace Decimal

variable {a b : Decimal}

/-- The number that a decimal is. -/
def toRat (d : Decimal) : ℚ := d.mantissa / 10 ^ d.scale

theorem order_isLE : (a.order b).isLE ↔ a.toRat ≤ b.toRat := by
  have ha : (0 : ℚ) < 10 ^ a.scale := pow_pos (by norm_num) _
  have hb : (0 : ℚ) < 10 ^ b.scale := pow_pos (by norm_num) _
  rw [order, toRat, toRat, div_le_div_iff₀ ha hb, Std.isLE_compare]
  exact_mod_cast Iff.rfl

instance : Std.TransCmp Decimal.order where
  eq_swap := Std.OrientedOrd.eq_swap
  isLE_trans hab hbc := by
    rw [order_isLE] at *
    exact hab.trans hbc

@[simp] theorem order_ofInt (m n : Int) : (ofInt m).order (ofInt n) = compare m n := by
  simp [order, ofInt]

end Decimal

namespace Typed

theorem order_swap (x y : Typed) : x.order y = (y.order x).map Ordering.swap := by
  cases x <;> cases y <;> first
    | rfl
    | exact congrArg some Std.OrientedCmp.eq_swap

theorem order_self (x : Typed) : x.order x = some .eq := by
  cases x <;> exact congrArg some Std.ReflCmp.compare_self

end Typed

-- ---------------------------------------------------------------------------
-- Sides
-- ---------------------------------------------------------------------------

namespace Value

variable {clock : Clock} {a b : Value}

/-- What the two sides are compared by, if they can be compared. -/
def sides (clock : Clock) : Value → Value → Option (Typed × Typed)
  | .untyped s, .untyped t => some (.text s, .text t)
  | .untyped s, b => b.typed?.bind fun y => (y.adopt clock s).map (·, y)
  | a, .untyped t => a.typed?.bind fun x => (x.adopt clock t).map (x, ·)
  | a, b => a.typed?.bind fun x => b.typed?.map (x, ·)

theorem order_eq_sides : a.order clock b = (a.sides clock b).bind fun s => s.1.order s.2 := by
  fun_cases order clock a b with
  | case1 => rfl
  | case2 s b hb =>
    rw [sides]
    · simp [Option.bind_map, Option.bind_assoc]
    · exact hb
  | case3 a t ha =>
    rw [sides]
    · simp [Option.bind_map, Option.bind_assoc]
    · exact ha
  | case4 a b hab ha hb =>
    rw [sides]
    · simp [Option.bind_map, Option.bind_assoc]
    · exact ha
    · exact hb
    · exact hab

theorem sides_swap : a.sides clock b = (b.sides clock a).map Prod.swap := by
  fun_cases sides clock a b with
  | case1 => rfl
  | case2 s b hb =>
    rw [sides]
    · simp [Option.map_bind, Function.comp_def]
    · exact hb
  | case3 a t ha =>
    rw [sides]
    · simp [Option.map_bind, Function.comp_def]
    · exact ha
  | case4 a b hab ha hb =>
    rw [sides]
    · cases a.typed? <;> cases b.typed? <;> rfl
    · exact hb
    · exact ha
    · exact fun _ _ h h' => hab _ _ h' h

theorem order_swap : a.order clock b = (b.order clock a).map Ordering.swap := by
  rw [order_eq_sides, order_eq_sides, sides_swap]
  cases b.sides clock a with
  | none => rfl
  | some s => exact Typed.order_swap s.2 s.1

end Value

end LineFilter
