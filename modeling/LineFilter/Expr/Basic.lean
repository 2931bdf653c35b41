import LineFilter.Operator
import LineFilter.Value.Basic

/-!
# Expressions

What a rule tests and what a command prints. A range is two comparisons that
share their middle operand and point the same way; it is kept as its three
operands, its slope and its two edges, so that no other range can be built.
-/

namespace LineFilter

inductive Expr
  | value (value : Value)
  | compare (left : Expr) (op : Operator) (right : Expr)
  /-- Both comparisons of a range, `lower` between the first two operands. -/
  | between (slope : Slope) (left : Expr) (lower : Edge) (middle : Expr) (upper : Edge)
      (right : Expr)
  | not (inner : Expr)
  /-- Some characters of the text of an operand. -/
  | slice (operand : Expr) (start stop : Option Int)
deriving DecidableEq

namespace Expr

/-- The whole line. -/
def wholeLine : Expr := .value .wholeLine

/-- What a comparison without a left side means. -/
def againstLine (op : Operator) (right : Expr) : Expr := .compare wholeLine op right

def describeBound : Option Int → Text
  | some n => Text.ofInt n
  | none => []

/-- An expression as a script shows it. -/
def describe : Expr → Text
  | .value v => v.describe
  | .compare left op right => describe left ++ ' ' :: op.symbol ++ ' ' :: describe right
  | .between slope left lower middle upper right =>
    describe left ++ ' ' :: (slope.operator lower).symbol ++ ' ' :: describe middle ++
      ' ' :: (slope.operator upper).symbol ++ ' ' :: describe right
  | .not inner => '!' :: '(' :: describe inner ++ [')']
  | .slice operand start stop =>
    describe operand ++ '[' :: describeBound start ++ ':' :: describeBound stop ++ [']']

end Expr

/-- A comparison that may become half of a range. -/
structure Comparison where
  left : Expr
  op : Operator
  right : Expr
deriving DecidableEq

/-- Pairs of comparisons that are not the halves of a range. -/
inductive RangeError
  /-- The operators do not point the same way. -/
  | incompatibleOperators (lower upper : Operator)
  /-- The first ends in another operand than the second begins with. -/
  | noSharedOperand (lower upper : Comparison)
deriving DecidableEq

namespace Comparison

def expr (c : Comparison) : Expr := .compare c.left c.op c.right

/-- The range whose halves are two comparisons. -/
def range (lower upper : Comparison) : Except RangeError Expr :=
  match lower.op.slope?, upper.op.slope? with
  | some (slope, edge), some (slope', edge') =>
    if slope = slope' then
      if lower.right = upper.left then
        .ok (.between slope lower.left edge lower.right edge' upper.right)
      else .error (.noSharedOperand lower upper)
    else .error (.incompatibleOperators lower.op upper.op)
  | _, _ => .error (.incompatibleOperators lower.op upper.op)

end Comparison

namespace RangeError

def message : RangeError → Text
  | .incompatibleOperators lower upper =>
    "can not build a ternary boolean expression out of ".toList ++ lower.symbol ++
      " and ".toList ++ upper.symbol ++ " comparisons".toList
  | .noSharedOperand lower upper =>
    "ternary comparison halves ".toList ++ lower.expr.describe ++ " and ".toList ++
      upper.expr.describe ++ " do not share a middle operand".toList

end RangeError

end LineFilter
