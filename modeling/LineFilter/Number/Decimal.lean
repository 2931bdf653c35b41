import LineFilter.Number.Digits

/-!
# Decimals

A decimal is a mantissa over a power of ten. The power is part of it: `1.0` and
`1.00` are equal as numbers and print as they were written.
-/

namespace LineFilter

structure Decimal where
  mantissa : Int
  scale : Nat
deriving DecidableEq, Repr

namespace Decimal

/-- The longest fraction a decimal has. -/
def maxScale : Nat := 28

/-- The least magnitude that is no mantissa: a mantissa has 96 bits. -/
def mantissaBound : Nat := Nat.pow 2 96

def ofInt (n : Int) : Decimal := ⟨n, 0⟩

/-- The order of the numbers, brought to a common scale. -/
def order (a b : Decimal) : Ordering :=
  compare (a.mantissa * Nat.pow 10 b.scale) (b.mantissa * Nat.pow 10 a.scale)

/-- A sign if negative, the whole part, and the fraction in all its digits. -/
def text (d : Decimal) : Text :=
  let digits := Text.padded (d.scale + 1) d.mantissa.natAbs
  let (whole, fraction) := digits.splitAt (digits.length - d.scale)
  (if d.mantissa < 0 then ['-'] else []) ++ whole ++
    (if d.scale = 0 then [] else '.' :: fraction)

end Decimal

end LineFilter
