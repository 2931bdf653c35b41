import LineFilter.Text.Basic

/-!
# Slices

Some characters of a text, from a start up to a stop. A bound below zero counts
from the end of the text, and a bound outside of it is moved to the nearer end.
-/

namespace LineFilter.Text

/-- The place in a text of so many characters that a bound means. -/
def clamp (length : Nat) (bound : Int) : Nat :=
  min (if bound < 0 then length + bound else bound).toNat length

/-- The characters from a start up to a stop, from end to end if they are left
out. -/
def slice (text : Text) (start stop : Option Int) : Text :=
  let first := start.elim 0 (clamp text.length)
  let last := stop.elim text.length (clamp text.length)
  (text.take last).drop first

@[simp] theorem slice_none_none (text : Text) : text.slice none none = text := by simp [slice]

theorem clamp_le (length : Nat) (bound : Int) : clamp length bound ≤ length := Nat.min_le_right _ _

end LineFilter.Text
