import LineFilter.Number.Integer

/-!
# Rows

A row is a line with its number and its columns. Column 0 is the whole line;
the others are its fields, which spaces and tabs separate. A negative number
counts from the last field and never reaches column 0.
-/

namespace LineFilter

structure Row where
  number : Nat
  columns : List Text
deriving DecidableEq, Repr

namespace Row

/-- Whether a character separates fields. -/
def separates (c : Char) : Bool := c = ' ' || c = '\t'

def ofLine (number : Nat) (line : Text) : Row := ⟨number, line :: Text.runs separates line⟩

def line (row : Row) : Text := row.columns.headD []

/-- The column with a number. -/
def column? (row : Row) (index : Int) : Option Text :=
  if 0 ≤ index then row.columns[index.toNat]?
  else
    let fromEnd := row.columns.length + index
    if 1 ≤ fromEnd then row.columns[fromEnd.toNat]? else none

/-- The number in a reference: decimal digits behind at most one sign. -/
def index? (reference : Text) : Option Int :=
  let (negative, digits) := IntegerLiteral.splitSign reference
  ((Digits.read? 10 digits).map fun n => if negative then -(n : Int) else n).filter
    IntegerLiteral.fits

/-- What a reference to the row stands for: `#` for its number, a number for a
column. -/
def lookup? (row : Row) (reference : Text) : Option Text :=
  if reference = ['#'] then some (Text.ofNat row.number)
  else (index? reference).bind row.column?

end Row

end LineFilter
