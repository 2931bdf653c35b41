import LineFilter.Row
import LineFilter.Value.Basic

/-!
# Environments

What names stand for: columns of the row, if there is one, and variables. A
variable may stand for another name; resolving follows names to a value, but
not for ever.
-/

namespace LineFilter

structure Environment where
  clock : Clock
  row : Option Row
  bindings : List (Text × Value)

namespace Environment

def ofRow (clock : Clock) (row : Row) : Environment := ⟨clock, some row, []⟩

/-- The value that a variable was last set to. -/
def bound? (env : Environment) (name : Text) : Option Value := env.bindings.lookup name

/-- Sets a variable in place of what it was. -/
def set (env : Environment) (name : Text) (value : Value) : Environment :=
  { env with bindings := (name, value) :: env.bindings.filter (·.1 ≠ name) }

theorem bound?_set (env : Environment) (name other : Text) (value : Value) :
    (env.set name value).bound? other = if other = name then some value else env.bound? other := by
  simp only [set, bound?, List.lookup_cons]
  by_cases h : other = name
  · simp [h]
  · rw [if_neg h, beq_false_of_ne h]
    induction env.bindings with
    | nil => rfl
    | cons binding rest ih =>
      obtain ⟨key, bound⟩ := binding
      by_cases hk : key = name
      · have : other ≠ key := fun he => h (he.trans hk)
        simpa [hk, List.lookup_cons, beq_false_of_ne h] using ih
      · simpa [hk, List.lookup_cons] using by split <;> simp_all

/-- What a name stands for at first, which may be another name. A name with the
sigil `%` refers to the row. What there is not stands for the empty text. -/
def lookup (env : Environment) : Text → Value
  | '%' :: reference =>
    match env.row.bind (·.lookup? reference) with
    | some text => .untyped text
    | none => .empty
  | name => (env.bound? name).getD .empty

/-- Follows names for so many steps, keywords to their instants. -/
def follow (env : Environment) : Nat → Value → Value
  | 0, _ => .empty
  | n + 1, .variable name => env.follow n (env.lookup name)
  | _ + 1, .keyword k => .instant k.name (k.resolve env.clock)
  | _ + 1, v => v

/-- The longest chain of names that is followed. -/
def maxSteps : Nat := 32

/-- What a value stands for in the end. -/
def resolve (env : Environment) (v : Value) : Value := env.follow maxSteps v

end Environment

end LineFilter
