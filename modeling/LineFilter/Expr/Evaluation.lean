import LineFilter.Environment
import LineFilter.Expr.Basic
import LineFilter.Position
import LineFilter.Text.Slice
import LineFilter.Value.Order

/-!
# What expressions mean

An expression means a truth value or a value. A truth value that is compared,
sliced or printed is the text `true` or `false`; the other way there is
nothing: to negate a value is an error.
-/

namespace LineFilter

inductive Outcome
  | truth (holds : Bool)
  | value (value : Value)
deriving DecidableEq

/-- The outcome as something to compare or to print. -/
def Outcome.asValue : Outcome → Value
  | .truth true => .untyped "true".toList
  | .truth false => .untyped "false".toList
  | .value v => v

/-- Rules that can not be carried out on a line. -/
inductive EvalError
  /-- `!` in front of what is no truth value. -/
  | negatedValue (operand : Expr)
  /-- A selection that is no truth value. -/
  | unselectiveValue (selection : Expr)
  | unknownCommand (name : Text) (place : Position)
  /-- The output takes no more text. -/
  | closedOutput
deriving DecidableEq

def EvalError.message : EvalError → Text
  | .negatedValue operand =>
    "attempted to negate a non-boolean value: ".toList ++ operand.describe
  | .unselectiveValue selection =>
    "selection ".toList ++ selection.describe ++ " does not produce a boolean".toList
  | .unknownCommand name place =>
    "unknown function ".toList ++ name.quote ++ " at ".toList ++ place.describe
  | .closedOutput => "could not write output: closed".toList

namespace Expr

/-- Operands are evaluated from left to right; the upper half of a range only
if the lower one holds. -/
def eval (env : Environment) : Expr → Except EvalError Outcome
  | .value v => .ok (.value (env.resolve v))
  | .compare left op right => do
    let a ← eval env left
    let b ← eval env right
    return .truth (op.holds env.clock a.asValue b.asValue)
  | .between slope left lower middle upper right => do
    let a ← eval env left
    let b ← eval env middle
    if (slope.operator lower).holds env.clock a.asValue b.asValue then
      let c ← eval env right
      return .truth ((slope.operator upper).holds env.clock b.asValue c.asValue)
    else return .truth false
  | .not inner => do
    match ← eval env inner with
    | .truth holds => .ok (.truth !holds)
    | .value _ => .error (.negatedValue inner)
  | .slice operand start stop => do
    let a ← eval env operand
    return .value (.untyped (a.asValue.text.slice start stop))

end Expr

end LineFilter
