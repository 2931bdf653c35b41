/-!
# Text

Text is a list of characters, so that reading it is recursion on data. The
module holds what every part shares: numbers in digits, joining, and cutting
a text into the runs between separators.
-/

namespace LineFilter

/-- Text as a list of characters. -/
abbrev Text := List Char

namespace Text

/-- The decimal digits of a number. -/
def ofNat (n : Nat) : Text := Nat.toDigits 10 n

/-- The decimal digits of an integer, after `-` for one below zero. -/
def ofInt : Int → Text
  | .ofNat n => ofNat n
  | .negSucc n => '-' :: ofNat (n + 1)

/-- A number with zeros in front up to a width. -/
def padded (width n : Nat) : Text :=
  let digits := ofNat n
  List.replicate (width - digits.length) '0' ++ digits

/-- The parts in order, with a separator between neighbours. -/
def join (separator : Text) (parts : List Text) : Text :=
  separator.intercalate parts

theorem join_cons {separator part : Text} {parts : List Text} (h : parts ≠ []) :
    join separator (part :: parts) = part ++ (separator ++ join separator parts) := by
  cases parts with
  | nil => exact absurd rfl h
  | cons next parts => simp [join, List.intercalate]

/-- Maximal runs of characters that do not separate, in order. -/
def runs (separates : Char → Bool) : Text → List Text
  | [] => []
  | c :: cs =>
    if separates c then runs separates cs
    else (c :: cs.takeWhile (!separates ·)) :: runs separates (cs.dropWhile (!separates ·))
termination_by cs => cs.length
decreasing_by
  · simp
  · exact Nat.lt_succ_of_le (List.dropWhile_suffix _).length_le

theorem span_append {p : Char → Bool} {cs rest : Text} (h : ∀ c ∈ cs, p c)
    (hr : !rest.head?.any p) :
    (cs ++ rest).takeWhile p = cs ∧ (cs ++ rest).dropWhile p = rest := by
  rw [List.takeWhile_append_of_pos h, List.dropWhile_append_of_pos h]
  cases rest with
  | nil => simp
  | cons c rest =>
    have hc : ¬ p c := by simpa using hr
    simp [hc]

/-- Whether a text is one of the ten ASCII digits throughout. -/
def isDigit (c : Char) : Bool := '0' ≤ c && c ≤ '9'

end Text

end LineFilter
