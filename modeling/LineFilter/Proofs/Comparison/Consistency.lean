import LineFilter.Proofs.Comparison.Sides

/-!
# The six operators agree

The order of two values, if they have one, or else whether a pattern among them
matches the other decides all six operators. An operator says the same of two
values as its mirror image says of them the other way round.
-/

namespace LineFilter

-- ---------------------------------------------------------------------------
-- Operators and orders
-- ---------------------------------------------------------------------------

namespace Operator

/-- The operator that says the same with its sides exchanged. -/
def mirror : Operator → Operator
  | .less => .greater
  | .lessEqual => .greaterEqual
  | .equal => .equal
  | .notEqual => .notEqual
  | .greaterEqual => .lessEqual
  | .greater => .less

/-- Whether an operator holds between values in this order. -/
def admits : Operator → Ordering → Bool
  | .less, o => o = .lt
  | .lessEqual, o => o ≠ .gt
  | .equal, o => o = .eq
  | .notEqual, o => o ≠ .eq
  | .greaterEqual, o => o ≠ .lt
  | .greater, o => o = .gt

theorem countP_admits (o : Ordering) : [less, equal, greater].countP (·.admits o) = 1 := by
  cases o <;> rfl

theorem lessEqual_admits (o : Ordering) :
    lessEqual.admits o = (less.admits o || equal.admits o) := by
  cases o <;> rfl

theorem greaterEqual_admits (o : Ordering) :
    greaterEqual.admits o = (greater.admits o || equal.admits o) := by
  cases o <;> rfl

end Operator

-- ---------------------------------------------------------------------------
-- Equality
-- ---------------------------------------------------------------------------

namespace Value

variable {clock : Clock} {a b : Value}

/-- Equality by a pattern: it is the other one, or it matches the text on the
other side. -/
inductive Matches : Value → Value → Prop
  | same {p q : Pattern} : p.source = q.source → Matches (.regexp p) (.regexp q)
  | stringRight {p : Pattern} {raw text : Text} :
    p.isMatch text → Matches (.regexp p) (.string raw text)
  | untypedRight {p : Pattern} {text : Text} :
    p.isMatch text → Matches (.regexp p) (.untyped text)
  | stringLeft {p : Pattern} {raw text : Text} :
    p.isMatch text → Matches (.string raw text) (.regexp p)
  | untypedLeft {p : Pattern} {text : Text} :
    p.isMatch text → Matches (.untyped text) (.regexp p)

theorem order_isNone : (a.order clock b).isNone = (b.order clock a).isNone := by
  rw [order_swap]
  cases b.order clock a <;> rfl

theorem equals_swap : a.equals clock b = b.equals clock a := by
  have h : (a.order clock b = some .eq) = (b.order clock a = some .eq) := by
    rw [order_swap]
    cases b.order clock a with
    | none => rfl
    | some o => cases o <;> simp [Ordering.swap]
  cases a <;> cases b <;> simp only [equals, h]
  -- Only two patterns are left.
  exact decide_eq_decide.mpr eq_comm

/-- Values that have an order are equal if it says so: none of them is a pattern. -/
theorem equals_of_order {o : Ordering} (h : a.order clock b = some o) :
    a.equals clock b = decide (o = .eq) := by
  cases a <;> cases b <;> simp_all [equals, order, typed?, Typed.adopt]

theorem equals_of_order_none (h : a.order clock b = none) : a.equals clock b ↔ a.Matches b := by
  constructor
  · intro he
    cases a <;> cases b <;> simp only [equals, h, decide_eq_true_eq, reduceCtorEq] at he
    case regexp.regexp => exact .same (congrArg Pattern.source he)
    case regexp.string => exact .stringRight he
    case regexp.untyped => exact .untypedRight he
    case string.regexp => exact .stringLeft he
    case untyped.regexp => exact .untypedLeft he
  · intro hm
    cases hm with
    | same hs => exact decide_eq_true (Pattern.ext_source hs)
    | stringRight hp | untypedRight hp | stringLeft hp | untypedLeft hp => exact hp

end Value

-- ---------------------------------------------------------------------------
-- Operators between values
-- ---------------------------------------------------------------------------

namespace Operator

variable {clock : Clock} {a b : Value} {op : Operator}

/-- Operators that point somewhere look at nothing but the order. -/
theorem holds_of_slope (h : op.slope? ≠ none) :
    op.holds clock a b = (a.order clock b).any op.admits := by
  cases op with
  | equal | notEqual => exact absurd rfl h
  | less | lessEqual | greaterEqual | greater =>
    cases ho : a.order clock b with
    | none => simp [holds, ho]
    | some o => cases o <;> simp [holds, admits, ho]

theorem holds_of_order {o : Ordering} (h : a.order clock b = some o) :
    op.holds clock a b = op.admits o := by
  cases op with
  | equal | notEqual => simp [holds, admits, Value.equals_of_order h]
  | less | lessEqual | greaterEqual | greater =>
    rw [holds_of_slope (by simp [slope?]), h]
    rfl

theorem holds_mirror : op.mirror.holds clock b a = op.holds clock a b := by
  cases op with
  | equal => exact Value.equals_swap
  | notEqual => exact congrArg (!·) Value.equals_swap
  | less | lessEqual | greaterEqual | greater =>
    rw [holds_of_slope (by simp [mirror, slope?]), holds_of_slope (by simp [slope?]),
      Value.order_swap]
    cases a.order clock b with
    | none => rfl
    | some o => cases o <;> rfl

/-- What the six operators say of two values, and say of them the other way
round. -/
structure Consistent (clock : Clock) (a b : Value) : Prop where
  /-- The order turns round with the sides. -/
  reversed : a.order clock b = (b.order clock a).map Ordering.swap
  unordered_iff : a.order clock b = none ↔ b.order clock a = none
  /-- `<` is `>` the other way round, `<=` is `>=`, and the rest are themselves. -/
  mirrored : ∀ op : Operator, op.holds clock a b = op.mirror.holds clock b a
  /-- Every operator asks its own question. -/
  asksOrder : ∀ op : Operator, op.slope? ≠ none →
    op.holds clock a b = (a.order clock b).any op.admits
  asksEqual : equal.holds clock a b = a.equals clock b
  negated : notEqual.holds clock a b = !equal.holds clock a b
  /-- Values with an order are in one of three relations. -/
  trichotomy : (a.order clock b).isSome →
    [less, equal, greater].countP (·.holds clock a b) = 1
  lessEqual_eq : (a.order clock b).isSome →
    lessEqual.holds clock a b = (less.holds clock a b || equal.holds clock a b)
  greaterEqual_eq : (a.order clock b).isSome →
    greaterEqual.holds clock a b = (greater.holds clock a b || equal.holds clock a b)
  /-- Without an order nothing holds but `!=`, or `==` where a pattern matches. -/
  unordered : a.order clock b = none →
    ∀ op : Operator, op.slope? ≠ none → op.holds clock a b = false
  matched : a.order clock b = none → (equal.holds clock a b ↔ a.Matches b)

theorem consistent (clock : Clock) (a b : Value) : Consistent clock a b where
  reversed := Value.order_swap
  unordered_iff := by
    rw [← Option.isNone_iff_eq_none, Value.order_isNone, Option.isNone_iff_eq_none]
  mirrored _ := holds_mirror.symm
  asksOrder _ := holds_of_slope
  asksEqual := rfl
  negated := rfl
  trichotomy h := by
    obtain ⟨o, ho⟩ := Option.isSome_iff_exists.mp h
    rw [← countP_admits o]
    simp only [holds_of_order ho]
  lessEqual_eq h := by
    obtain ⟨o, ho⟩ := Option.isSome_iff_exists.mp h
    simp only [holds_of_order ho, lessEqual_admits]
  greaterEqual_eq h := by
    obtain ⟨o, ho⟩ := Option.isSome_iff_exists.mp h
    simp only [holds_of_order ho, greaterEqual_admits]
  unordered h op hop := by
    rw [holds_of_slope hop, h]
    rfl
  matched := Value.equals_of_order_none

end Operator

end LineFilter
