import LineFilter.Text.Basic

/-!
# Places in a script

Lines and columns are counted in characters, from 1. Only a line feed ends a
line.
-/

namespace LineFilter

structure Position where
  line : Nat
  column : Nat
deriving DecidableEq, Repr, Inhabited

namespace Position

/-- Where a script begins. -/
def start : Position := ⟨1, 1⟩

/-- The place of what no script spells out. -/
def implied : Position := ⟨0, 0⟩

/-- The place after one character. -/
def step (p : Position) (c : Char) : Position :=
  if c = '\n' then ⟨p.line + 1, 1⟩ else ⟨p.line, p.column + 1⟩

/-- The place after a text. -/
def after (p : Position) (text : Text) : Position := text.foldl step p

@[simp] theorem after_nil (p : Position) : p.after [] = p := rfl

theorem after_append (p : Position) (left right : Text) :
    p.after (left ++ right) = (p.after left).after right := by
  simp [after, List.foldl_append]

def describe (p : Position) : Text :=
  "line ".toList ++ Text.ofNat p.line ++ ", column ".toList ++ Text.ofNat p.column

end Position

end LineFilter
