import LineFilter.Operator
import LineFilter.Value.Basic

/-!
# Comparing values

Values of one type have an order, and integers and decimals have one together.
Text without a type is read as the type of the other side and does not compare
if it cannot be. A pattern has no order; it equals the texts that it matches.
-/

namespace LineFilter

/-- The order of texts by their characters. -/
def Text.order : Text → Text → Ordering
  | [], [] => .eq
  | [], _ :: _ => .lt
  | _ :: _, [] => .gt
  | a :: as, b :: bs => (compare a.toNat b.toNat).then (order as bs)

/-- What a value is compared by. -/
inductive Typed
  | text (text : Text)
  | integer (n : Int)
  | decimal (d : Decimal)
  | instant (i : Instant)
deriving DecidableEq, Repr

namespace Typed

/-- The order of two values of one type, or of two numbers. -/
def order : Typed → Typed → Option Ordering
  | .text a, .text b => some (Text.order a b)
  | .integer a, .integer b => some (compare a b)
  | .integer a, .decimal b => some ((Decimal.ofInt a).order b)
  | .decimal a, .integer b => some (a.order (.ofInt b))
  | .decimal a, .decimal b => some (a.order b)
  | .instant a, .instant b => some (a.order b)
  | _, _ => none

/-- A text read as the type of another value. -/
def adopt (clock : Clock) (t : Text) : Typed → Option Typed
  | .text _ => some (.text t)
  | .integer _ => (IntegerLiteral.read? t).map .integer
  | .decimal _ =>
    ((DecimalLiteral.read t).toOption <|> (IntegerLiteral.read? t).map Decimal.ofInt).map .decimal
  | .instant _ => (Layout.readFirst? Layout.columns clock t).map .instant

end Typed

namespace Value

/-- What a value is compared by, if it stands for itself and has an order. -/
def typed? : Value → Option Typed
  | .string _ t | .untyped t => some (.text t)
  | .integer _ n => some (.integer n)
  | .decimal _ d => some (.decimal d)
  | .instant _ i => some (.instant i)
  | .regexp _ | .variable _ | .keyword _ => none

/-- The order of two values, if they have one. -/
def order (clock : Clock) : Value → Value → Option Ordering
  | .untyped s, .untyped t => some (Text.order s t)
  | .untyped s, b => b.typed?.bind fun y => (y.adopt clock s).bind fun x => x.order y
  | a, .untyped t => a.typed?.bind fun x => (x.adopt clock t).bind fun y => x.order y
  | a, b => a.typed?.bind fun x => b.typed?.bind fun y => x.order y

/-- Whether two values are equal, or one is a pattern that matches the other. -/
def equals (clock : Clock) : Value → Value → Bool
  | .regexp p, .regexp q => p = q
  | .regexp p, .string _ t | .regexp p, .untyped t => p.isMatch t
  | .string _ t, .regexp p | .untyped t, .regexp p => p.isMatch t
  | a, b => a.order clock b = some .eq

end Value

/-- Whether an operator holds between two values. -/
def Operator.holds (clock : Clock) (op : Operator) (a b : Value) : Bool :=
  match op with
  | .less => a.order clock b = some .lt
  | .lessEqual => a.order clock b = some .lt || a.order clock b = some .eq
  | .equal => a.equals clock b
  | .notEqual => !a.equals clock b
  | .greaterEqual => a.order clock b = some .gt || a.order clock b = some .eq
  | .greater => a.order clock b = some .gt

end LineFilter
