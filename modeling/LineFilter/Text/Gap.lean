import LineFilter.Text.Blank

/-!
# Gaps

What separates the parts of a text that is read loosely: white space, and
comments from `#` to the end of the line.
-/

namespace LineFilter.Text

/-- Splits off the gap at the front of a text. -/
def splitGap (inComment : Bool) : Text → Text × Text
  | [] => ([], [])
  | c :: cs =>
    if inComment || c = '#' || isBlank c then
      let (gap, rest) := splitGap ((inComment || c = '#') && c != '\n') cs
      (c :: gap, rest)
    else ([], c :: cs)

theorem splitGap_append (inComment : Bool) (cs : Text) :
    (splitGap inComment cs).1 ++ (splitGap inComment cs).2 = cs := by
  induction cs generalizing inComment with
  | nil => rfl
  | cons c cs ih =>
    simp only [splitGap]
    split
    · simp [ih]
    · rfl

theorem length_splitGap_le (inComment : Bool) (cs : Text) :
    (splitGap inComment cs).2.length ≤ cs.length := by
  have h := congrArg List.length (splitGap_append inComment cs)
  simp only [List.length_append] at h
  omega

end LineFilter.Text
