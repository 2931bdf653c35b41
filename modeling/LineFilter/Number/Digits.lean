import LineFilter.Text.Basic

/-!
# Digits

Digits of bases up to 36 and the number that a run of them spells, most
significant digit first.
-/

namespace LineFilter.Digits

/-- The worth of an ASCII digit or letter. -/
def worth? (c : Char) : Option Nat :=
  if '0' ≤ c && c ≤ '9' then some (c.toNat - '0'.toNat)
  else if 'a' ≤ c && c ≤ 'z' then some (c.toNat - 'a'.toNat + 10)
  else if 'A' ≤ c && c ≤ 'Z' then some (c.toNat - 'A'.toNat + 10)
  else none

/-- The worth of a digit of a base. -/
def worthIn? (base : Nat) (c : Char) : Option Nat :=
  (worth? c).filter (· < base)

/-- The number that the digits spell, after those that spell `n`. -/
def extend (base n : Nat) (worths : List Nat) : Nat :=
  worths.foldl (fun n d => n * base + d) n

theorem extend_append (base n : Nat) (left right : List Nat) :
    extend base n (left ++ right) = extend base (extend base n left) right := by
  simp [extend, List.foldl_append]

/-- Reads one or more digits of a base and nothing else. -/
def read? (base : Nat) (text : Text) : Option Nat :=
  if text = [] then none
  else (text.mapM (worthIn? base)).map (extend base 0)

end LineFilter.Digits
