import LineFilter.Number.Digits

/-!
# Integer literals

An integer is written in base ten, or in base 16, 2 or 8 after `0x`, `0b` or
`0o`, behind at most one sign. A `_` may stand anywhere and means nothing. Only
numbers of 64 bits are integers.
-/

namespace LineFilter

namespace IntegerLiteral

/-- The base that a literal names, and its digits. -/
def splitBase : Text → Nat × Text
  | '0' :: 'x' :: ds | '0' :: 'X' :: ds => (16, ds)
  | '0' :: 'b' :: ds | '0' :: 'B' :: ds => (2, ds)
  | '0' :: 'o' :: ds | '0' :: 'O' :: ds => (8, ds)
  | ds => (10, ds)

/-- Whether a literal is negative, and the literal without its sign. -/
def splitSign : Text → Bool × Text
  | '-' :: cs => (true, cs)
  | '+' :: cs => (false, cs)
  | cs => (false, cs)

/-- A text without its separators. -/
def withoutSeparators (text : Text) : Text := text.filter (· ≠ '_')

/-- The numbers of 64 bits. -/
def fits (n : Int) : Bool := -9223372036854775808 ≤ n && n ≤ 9223372036854775807

/-- Reads an integer of 64 bits. -/
def read? (text : Text) : Option Int :=
  let (negative, unsigned) := splitSign (withoutSeparators text)
  let (base, digits) := splitBase unsigned
  ((Digits.read? base digits).map fun n => if negative then -(n : Int) else n).filter fits

theorem fits_of_read? {text : Text} {n : Int} (h : read? text = some n) : fits n := by
  exact (Option.filter_eq_some_iff.mp h).2

end IntegerLiteral

end LineFilter
