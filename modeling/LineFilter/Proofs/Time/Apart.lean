import LineFilter.Proofs.Time.Pieces

/-!
# Layouts that share no text

Two layouts are read in step as long as they take the same characters: equal
pieces do, and so do two fields of two digits. At the first difference the
characters that can come next tell them apart. A year is the one field that may
take more digits than another; those that the other leaves have to fit its next
piece.
-/

namespace LineFilter.LayoutItem

variable {item : LayoutItem} {items left right : List LayoutItem} {text rest rest' : Text}

/-- No text begins as both lists of pieces demand. -/
def unlike (left right : List LayoutItem) : Bool :=
  CodeRanges.apart (allHeads left) (allHeads right) && !(left.all skips && right.all skips)

theorem not_take_of_unlike (h : unlike left right) (hl : Take left text) : ¬ Take right text := by
  intro hr
  simp only [unlike, Bool.and_eq_true, Bool.not_eq_true', Bool.and_eq_false_iff] at h
  obtain ⟨hheads, hends⟩ := h
  rcases hl.head with ⟨c, hc, hcl⟩ | ⟨hskips, rfl⟩
  · rcases hr.head with ⟨d, hd, hdr⟩ | ⟨-, rfl⟩
    · obtain rfl := Option.mem_unique hc hd
      exact not_among_of_apart hheads hcl hdr
    · simp at hc
  · rcases hr.head with ⟨d, hd, -⟩ | ⟨hskips', -⟩
    · simp at hd
    · simp [hskips, hskips'] at hends

/-- Whether two pieces that both take a text leave the same rest of it. -/
def inStep (left right : LayoutItem) : Bool := left = right || left.isPair && right.isPair

theorem Leaves.eq_of_inStep {other : LayoutItem} (hs : inStep item other)
    (h : item.Leaves text rest) (h' : other.Leaves text rest') : rest = rest' := by
  simp only [inStep, Bool.or_eq_true, Bool.and_eq_true, decide_eq_true_eq] at hs
  rcases hs with rfl | ⟨hl, hr⟩
  · exact h.unique h'
  · obtain ⟨run, hrun, htext⟩ := leaves_pair hl h
    obtain ⟨run', hrun', htext'⟩ := leaves_pair hr h'
    exact hrun.unique hrun' (htext.symm.trans htext')

/-- A year leaves what a field of two digits does, or digits less. -/
theorem Leaves.lag (hp : item.isPair) (hl : (number .year).Leaves text rest)
    (hr : item.Leaves text rest') :
    rest = rest' ∨ ∃ more, IsRun 2 more rest ∧ rest' = more ++ rest := by
  obtain ⟨run', hrun', htext'⟩ := leaves_pair hp hr
  rcases leaves_year hl with ⟨c, hc, hsign⟩ | ⟨run, hrun, htext⟩
  · obtain ⟨d, hd, hdigit⟩ := htext' ▸ head_of_isRun hrun'
    obtain rfl := Option.mem_unique hc hd
    rcases hsign with rfl | rfl
    · exact absurd (among_exactly '-') (not_among_of_apart (by decide) hdigit)
    · exact absurd (among_exactly '+') (not_among_of_apart (by decide) hdigit)
  · exact hrun.lag hrun' (htext.symm.trans htext')

/-- Digits that a field of two digits finds are all that it takes. -/
theorem Leaves.eq_of_isRun {run : Text} (hp : item.isPair) (hrun : IsRun 2 run rest)
    (h : item.Leaves (run ++ rest) rest') : rest = rest' := by
  obtain ⟨run', hrun', htext⟩ := leaves_pair hp h
  refine hrun.unique hrun' ?_
  rw [← htext]
  obtain ⟨c, cs, rfl⟩ := List.exists_cons_of_ne_nil hrun.ne_nil
  have hblank : ¬ isBlank c := by simp [Text.isBlank_of_isDigit (hrun.digit c (by simp))]
  exact (List.dropWhile_cons_of_neg hblank).symm

theorem not_take_of_digits {width : Nat} {run : Text} (hrun : IsRun width run rest)
    (h : CodeRanges.apart digitRange (allHeads items)) : ¬ Take items (run ++ rest) := by
  intro ht
  obtain ⟨c, hc, hdigit⟩ := head_of_isRun hrun
  rcases ht.head with ⟨d, hd, hheads⟩ | ⟨-, hnil⟩
  · obtain rfl := Option.mem_unique hc hd
    exact not_among_of_apart h hdigit hheads
  · simp [hnil] at hc

/-- Whether the lists of pieces can be told apart. -/
def apart : List LayoutItem → List LayoutItem → Bool
  | x :: left, y :: right =>
    unlike (x :: left) (y :: right) || inStep x y && apart left right ||
      (x = .number .year && y.isPair && apart left right &&
        (CodeRanges.apart digitRange (allHeads right) ||
          match right with
          | z :: right => z.isPair && apart left right
          | [] => false))
  | left, right => unlike left right

/-- No text is taken by both of two lists that can be told apart. -/
theorem not_take_of_apart (h : apart left right) (hl : Take left text) : ¬ Take right text := by
  induction left generalizing right text with
  | nil => exact not_take_of_unlike (by cases right <;> exact h) hl
  | cons x left ih =>
    cases right with
    | nil => exact not_take_of_unlike h hl
    | cons y right =>
      intro hr
      simp only [apart, Bool.or_eq_true, Bool.and_eq_true, decide_eq_true_eq] at h
      rcases h with (hunlike | ⟨hstep, hrest⟩) | ⟨⟨⟨hx, hy⟩, hrest⟩, hlag⟩
      · exact not_take_of_unlike hunlike hl hr
      · obtain ⟨rest, hitem, hitems⟩ := hl.cons
        obtain ⟨rest', hitem', hitems'⟩ := hr.cons
        obtain rfl := hitem.eq_of_inStep hstep hitem'
        exact ih hrest hitems hitems'
      · obtain rfl := hx
        obtain ⟨rest, hitem, hitems⟩ := hl.cons
        obtain ⟨rest', hitem', hitems'⟩ := hr.cons
        rcases hitem.lag hy hitem' with rfl | ⟨more, hmore, rfl⟩
        · exact ih hrest hitems hitems'
        · -- The year took digits that the other list still has to place.
          rcases hlag with hdigits | hlag
          · exact not_take_of_digits hmore hdigits hitems'
          · cases right with
            | nil => simp at hlag
            | cons z right =>
              obtain ⟨hz, happart⟩ := Bool.and_eq_true_iff.mp hlag
              obtain ⟨rest', hnext, hitems'⟩ := hitems'.cons
              obtain rfl := hnext.eq_of_isRun hz hmore
              exact ih happart hitems hitems'

end LineFilter.LayoutItem
