import LineFilter.Text.Basic

/-!
# Comparison operators

Four of the six point somewhere: `<` and `<=` rise, `>` and `>=` fall. A range
such as `a < b <= c` needs two that point the same way.
-/

namespace LineFilter

inductive Operator
  | less
  | lessEqual
  | equal
  | notEqual
  | greaterEqual
  | greater
deriving DecidableEq, Repr

/-- The way an ordering operator points. -/
inductive Slope
  | rising
  | falling
deriving DecidableEq, Repr

/-- Whether an ordering operator leaves equality out. -/
inductive Edge
  | strict
  | inclusive
deriving DecidableEq, Repr

namespace Slope

/-- The operator with this slope and edge. -/
def operator : Slope → Edge → Operator
  | .rising, .strict => .less
  | .rising, .inclusive => .lessEqual
  | .falling, .strict => .greater
  | .falling, .inclusive => .greaterEqual

/-- The other way. -/
def flip : Slope → Slope
  | .rising => .falling
  | .falling => .rising

end Slope

namespace Operator

/-- The six operators, shortest order first. -/
def all : List Operator := [.less, .lessEqual, .equal, .notEqual, .greaterEqual, .greater]

def symbol : Operator → Text
  | .less => ['<']
  | .lessEqual => ['<', '=']
  | .equal => ['=', '=']
  | .notEqual => ['!', '=']
  | .greaterEqual => ['>', '=']
  | .greater => ['>']

/-- The operator that a symbol stands for. -/
def ofSymbol? (text : Text) : Option Operator := all.find? (·.symbol = text)

theorem ofSymbol?_symbol (op : Operator) : ofSymbol? op.symbol = some op := by
  cases op <;> decide

/-- Slope and edge of an operator that orders. -/
def slope? : Operator → Option (Slope × Edge)
  | .less => some (.rising, .strict)
  | .lessEqual => some (.rising, .inclusive)
  | .greater => some (.falling, .strict)
  | .greaterEqual => some (.falling, .inclusive)
  | .equal | .notEqual => none

@[simp] theorem slope?_operator (slope : Slope) (edge : Edge) :
    (slope.operator edge).slope? = some (slope, edge) := by
  cases slope <;> cases edge <;> rfl

theorem eq_operator_of_slope? {op : Operator} {slope : Slope} {edge : Edge}
    (h : op.slope? = some (slope, edge)) : op = slope.operator edge := by
  cases op <;> simp [slope?] at h <;> obtain ⟨rfl, rfl⟩ := h <;> rfl

end Operator

end LineFilter
