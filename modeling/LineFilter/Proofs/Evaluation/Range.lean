import LineFilter.Proofs.Comparison.Coherence
import LineFilter.Proofs.Comparison.Consistency
import LineFilter.Proofs.Environment.Resolution
import LineFilter.Proofs.Evaluation.Safety
import LineFilter.Proofs.Script.Complete

/-!
# Ranges

A range of operands says what its two halves say together, and says the same
when it is read from the other end. Where its ends are literals that are in the
wrong order, it holds on no line: the operand between them has the type of both,
and their orders fit together.
-/

namespace LineFilter

theorem Operator.mirror_operator (slope : Slope) (edge : Edge) :
    (slope.operator edge).mirror = slope.flip.operator edge := by
  cases slope <;> cases edge <;> rfl

-- ---------------------------------------------------------------------------
-- Ends in the wrong order
-- ---------------------------------------------------------------------------

namespace Slope

/-- The order of two values that a slope leads past. -/
def backward : Slope → Ordering
  | .rising => .gt
  | .falling => .lt

/-- Ends in this order have nothing between them: they are in the wrong order,
or they are level and one of them is left out. -/
def Crosses (slope : Slope) (lower upper : Edge) (o : Ordering) : Prop :=
  o = slope.backward ∨ o = .eq ∧ (lower = .strict ∨ upper = .strict)

variable {lower upper : Edge} {o o' : Ordering}

theorem isLE_of_rising_admits {edge : Edge} (h : (rising.operator edge).admits o) : o.isLE := by
  cases edge <;> cases o <;> simp_all [operator, Operator.admits]

/-- Two rising halves add up to ends that do not cross. -/
theorem not_rising_crosses_then (h : (rising.operator lower).admits o)
    (h' : (rising.operator upper).admits o') : ¬ rising.Crosses lower upper (o.then o') := by
  cases lower <;> cases upper <;> cases o <;> cases o' <;>
    simp_all [Crosses, backward, operator, Operator.admits]

theorem Crosses.swap (h : falling.Crosses lower upper o) : rising.Crosses upper lower o.swap := by
  rcases h with rfl | ⟨rfl, hedge⟩
  · exact .inl rfl
  · exact .inr ⟨rfl, hedge.symm⟩

end Slope

namespace Value

variable {clock : Clock} {v w x : Value} {slope : Slope} {lower upper : Edge} {o : Ordering}

/-- The clock only matters to what a text without a type is read as. -/
theorem order_clock (moment : Clock) (hv : v.isUntyped = false) (hw : w.isUntyped = false) :
    v.order moment w = v.order clock w := by
  rw [order_eq_sides, order_eq_sides, sides_right hw, sides_right hw]
  simp only [against_of_typed hv]

theorem order_swapped (h : v.order clock w = some o) : w.order clock v = some o.swap := by
  rw [order_swap, h]
  rfl

theorem isConcrete_of_order (h : v.order clock w = some o) : v.isConcrete := by
  cases v <;> first | rfl | cases w <;> simp [order, typed?] at h

theorem not_between_rising (hv : v.isUntyped = false) (hw : w.isUntyped = false)
    (h : v.order clock w = some o) (hc : Slope.rising.Crosses lower upper o) :
    ((Slope.rising.operator lower).holds clock v x &&
      (Slope.rising.operator upper).holds clock x w) = false := by
  rw [Bool.eq_false_iff]
  intro hboth
  rw [Bool.and_eq_true, Operator.holds_of_slope (by simp), Operator.holds_of_slope (by simp),
    Option.any_eq_true, Option.any_eq_true] at hboth
  obtain ⟨⟨a, ha, hlower⟩, b, hb, hupper⟩ := hboth
  have hthen := order_then_of_typed_ends hv hw ha hb h (Slope.isLE_of_rising_admits hlower)
    (Slope.isLE_of_rising_admits hupper)
  exact Slope.not_rising_crosses_then hlower hupper (hthen ▸ hc)

/-- Nothing is between values that cross, whatever it is. -/
theorem not_between (hv : v.isUntyped = false) (hw : w.isUntyped = false)
    (h : v.order clock w = some o) (hc : slope.Crosses lower upper o) :
    ((slope.operator lower).holds clock v x && (slope.operator upper).holds clock x w) = false := by
  cases slope with
  | rising => exact not_between_rising hv hw h hc
  | falling =>
    have hmirror (edge : Edge) (y z : Value) :
        (Slope.falling.operator edge).holds clock y z =
          (Slope.rising.operator edge).holds clock z y := by
      rw [← Operator.holds_mirror, Operator.mirror_operator]
      rfl
    rw [hmirror, hmirror, Bool.and_comm]
    exact not_between_rising hw hv (order_swapped h) hc.swap

end Value

-- ---------------------------------------------------------------------------
-- Operands
-- ---------------------------------------------------------------------------

theorem Value.isUntyped_ofNumber {clock : Clock} {word : Text} {v : Value}
    (h : ofNumber clock word = .ok v) : v.isUntyped = false := by
  unfold ofNumber ofInteger ofDecimal ofDate at h
  grind [isUntyped]

namespace Grammar

variable {clock : Clock} {tokens : List Placed} {next : Option Token} {v : Value}

theorem IsOperand.isUntyped (h : IsOperand clock tokens next (.value v)) : v.isUntyped = false := by
  cases h with
  | literal hv =>
    cases hv with
    | string => rfl
    | pattern hp =>
      obtain ⟨p, -, rfl⟩ := Value.ofPattern_eq_ok.mp hp
      rfl
    | number hn => exact Value.isUntyped_ofNumber hn
  | reference hv =>
    cases hv with
    | column => rfl
    | name =>
      unfold Value.ofName
      split <;> rfl

/-- An operand as it stands in some script. -/
structure Operand (clock : Clock) where
  tokens : List Placed
  next : Option Token
  expr : Expr
  spells : IsOperand clock tokens next expr

end Grammar

-- ---------------------------------------------------------------------------
-- Ranges
-- ---------------------------------------------------------------------------

open Grammar TokenStream

/-- Three operands and between them two operators that point the same way. -/
structure Range (clock : Clock) where
  slope : Slope
  left : Operand clock
  lower : Edge
  middle : Operand clock
  upper : Edge
  right : Operand clock

namespace Range

variable {clock : Clock}

def lowerHalf (r : Range clock) : Comparison :=
  ⟨r.left.expr, r.slope.operator r.lower, r.middle.expr⟩

def upperHalf (r : Range clock) : Comparison :=
  ⟨r.middle.expr, r.slope.operator r.upper, r.right.expr⟩

def expr (r : Range clock) : Expr :=
  .between r.slope r.left.expr r.lower r.middle.expr r.upper r.right.expr

/-- The tokens of a range with its operators at two places. -/
def tokens (r : Range clock) (p q : Position) : List Placed :=
  r.left.tokens ++ (.operator (r.slope.operator r.lower), p) ::
    (r.middle.tokens ++ (.operator (r.slope.operator r.upper), q) :: r.right.tokens)

/-- The range read from the other end. -/
def mirror (r : Range clock) : Range clock :=
  ⟨r.slope.flip, r.right, r.upper, r.middle, r.lower, r.left⟩

/-- What a range says. -/
structure Meaning (r : Range clock) : Prop where
  /-- Its tokens are read as the range wherever no bracket comes next. -/
  read : ∀ p q rest, rest.Reads → rest.head? ≠ some (.mark .openBracket) →
    Expr.readSelection clock (rest.behind (r.tokens p q)) = .ok (r.expr, rest)
  built : Comparison.range r.lowerHalf r.upperHalf = .ok r.expr
  /-- It says what its halves say together. -/
  halves : ∀ env, ∃ lower upper : Bool, r.lowerHalf.expr.eval env = .ok (.truth lower) ∧
    r.upperHalf.expr.eval env = .ok (.truth upper) ∧
      r.expr.eval env = .ok (.truth (lower && upper))
  /-- From the other end it has the same operands and the operators turned
  round. -/
  mirror_lowerHalf : r.mirror.lowerHalf =
    ⟨r.right.expr, r.upperHalf.op.mirror, r.middle.expr⟩
  mirror_upperHalf : r.mirror.upperHalf =
    ⟨r.middle.expr, r.lowerHalf.op.mirror, r.left.expr⟩
  mirror_built : Comparison.range r.mirror.lowerHalf r.mirror.upperHalf = .ok r.mirror.expr
  mirrored : ∀ env, r.mirror.expr.eval env = r.expr.eval env
  /-- Between literals that cross there is no line. -/
  empty : ∀ v w, r.left.expr = .value v → r.right.expr = .value w → ∀ moment o,
    v.order moment w = some o → r.slope.Crosses r.lower r.upper o →
      ∀ rule : Rule, rule.selection = some r.expr → ∀ env, rule.selects env = .ok false

theorem range_halves (r : Range clock) : Comparison.range r.lowerHalf r.upperHalf = .ok r.expr :=
  Comparison.range_eq_ok.mpr ⟨r.slope, r.lower, r.upper, rfl, rfl, rfl⟩

theorem readSelection_tokens (r : Range clock) (p q : Position) {rest : TokenStream}
    (hr : rest.Reads) (hn : rest.head? ≠ some (.mark .openBracket)) :
    Expr.readSelection clock (rest.behind (r.tokens p q)) = .ok (r.expr, rest) :=
  Expr.readSelection_complete
    (.range (r.left.spells.before nofun) (r.middle.spells.before nofun) (r.right.spells.before hn))
    rfl hr

theorem eval_expr (r : Range clock) (env : Environment) : ∃ a b c : Outcome,
    r.left.expr.eval env = .ok a ∧ r.middle.expr.eval env = .ok b ∧ r.right.expr.eval env = .ok c ∧
      r.expr.eval env = .ok (.truth
        ((r.slope.operator r.lower).holds env.clock a.asValue b.asValue &&
          (r.slope.operator r.upper).holds env.clock b.asValue c.asValue)) := by
  obtain ⟨a, ha⟩ := r.left.spells.means env
  obtain ⟨b, hb⟩ := r.middle.spells.means env
  obtain ⟨c, hc⟩ := r.right.spells.means env
  exact ⟨a, b, c, ha, hb, hc, Expr.eval_between r.slope r.lower r.upper ha hb hc⟩

theorem eval_mirror (r : Range clock) (env : Environment) :
    r.mirror.expr.eval env = r.expr.eval env := by
  obtain ⟨a, b, c, ha, hb, hc, heval⟩ := r.eval_expr env
  have hmirror : r.mirror.expr.eval env = .ok (.truth
      ((r.slope.flip.operator r.upper).holds env.clock c.asValue b.asValue &&
        (r.slope.flip.operator r.lower).holds env.clock b.asValue a.asValue)) :=
    Expr.eval_between r.slope.flip r.upper r.lower hc hb ha
  rw [hmirror, heval, ← Operator.mirror_operator, ← Operator.mirror_operator, Operator.holds_mirror,
    Operator.holds_mirror, Bool.and_comm]

theorem eval_of_crosses (r : Range clock) {v w : Value} {moment : Clock} {o : Ordering}
    (hv : r.left.expr = .value v) (hw : r.right.expr = .value w) (h : v.order moment w = some o)
    (hc : r.slope.Crosses r.lower r.upper o) (env : Environment) :
    r.expr.eval env = .ok (.truth false) := by
  have hvt : v.isUntyped = false := IsOperand.isUntyped (hv ▸ r.left.spells)
  have hwt : w.isUntyped = false := IsOperand.isUntyped (hw ▸ r.right.spells)
  have hve : r.left.expr.eval env = .ok (.value v) := by
    rw [hv, Expr.eval_value, Environment.resolve_of_isConcrete (Value.isConcrete_of_order h)]
  have hwe : r.right.expr.eval env = .ok (.value w) := by
    rw [hw, Expr.eval_value,
      Environment.resolve_of_isConcrete (Value.isConcrete_of_order (Value.order_swapped h))]
  obtain ⟨b, hb⟩ := r.middle.spells.means env
  have henv : v.order env.clock w = some o := (Value.order_clock env.clock hvt hwt).trans h
  rw [expr, Expr.eval_between r.slope r.lower r.upper hve hb hwe]
  exact congrArg (fun holds => Except.ok (Outcome.truth holds)) (Value.not_between hvt hwt henv hc)

theorem hasMeaning (r : Range clock) : r.Meaning where
  read p q _ := r.readSelection_tokens p q
  built := r.range_halves
  halves env := by
    obtain ⟨a, b, c, ha, hb, hc, heval⟩ := r.eval_expr env
    exact ⟨_, _, Expr.eval_compare _ ha hb, Expr.eval_compare _ hb hc, heval⟩
  mirror_lowerHalf := by
    rw [upperHalf, Operator.mirror_operator]
    rfl
  mirror_upperHalf := by
    rw [lowerHalf, Operator.mirror_operator]
    rfl
  mirror_built := r.mirror.range_halves
  mirrored := r.eval_mirror
  empty _ _ hv hw _ _ h hc _ hs env := Rule.selects_of_eval hs (r.eval_of_crosses hv hw h hc env)

/-- `9 < %1 <= 3`. -/
def crossed : Range ⟨0, 0, .utc⟩ :=
  ⟨.rising, ⟨[(.number ['9'], .start)], none, .value (.integer ['9'] 9), .literal (.number rfl)⟩,
    .strict, ⟨[(.column ['%', '1'], .start)], none, .value (.variable ['%', '1']),
      .reference .column nofun⟩,
    .inclusive,
    ⟨[(.number ['3'], .start)], none, .value (.integer ['3'] 3), .literal (.number rfl)⟩⟩

theorem hasMeaning_crossed :
    (Rule.mk (some crossed.expr) Block.printLine).selects
      (.ofRow ⟨0, 0, .utc⟩ (.ofLine 0 ['5'])) = .ok false :=
  crossed.hasMeaning.empty _ _ rfl rfl ⟨0, 0, .utc⟩ .gt rfl (.inl rfl) _ rfl _

end Range

end LineFilter
