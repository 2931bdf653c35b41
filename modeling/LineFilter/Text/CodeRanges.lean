/-!
# Sets of characters

A set of characters is a list of inclusive ranges of code points, in rising
order. Tables of the Unicode standard are written this way.
-/

namespace LineFilter

/-- Inclusive ranges of code points, disjoint and in rising order. -/
abbrev CodeRanges := List (Nat × Nat)

namespace CodeRanges

/-- Membership. The search ends at the first range past the code point. -/
def has : CodeRanges → Nat → Bool
  | [], _ => false
  | (low, high) :: rest, n => low ≤ n && (n ≤ high || has rest n)

/-- The ranges with one more, which takes in those that it touches. -/
def insert (low high : Nat) : CodeRanges → CodeRanges
  | [] => [(low, high)]
  | (first, last) :: rest =>
    if high + 1 < first then (low, high) :: (first, last) :: rest
    else if last + 1 < low then (first, last) :: insert low high rest
    else insert (min low first) (max high last) rest

/-- The code points of either list. -/
def merge (left right : CodeRanges) : CodeRanges :=
  left.foldl (fun ranges (low, high) => insert low high ranges) right

/-- The code points from `next` on that the ranges leave out. -/
def gapsFrom (next : Nat) : CodeRanges → CodeRanges
  | [] => if next ≤ 0x10ffff then [(next, 0x10ffff)] else []
  | (low, high) :: rest =>
    if next < low then (next, low - 1) :: gapsFrom (high + 1) rest else gapsFrom (high + 1) rest

/-- All other code points. -/
def complement (ranges : CodeRanges) : CodeRanges := gapsFrom 0 ranges

/-- The code points of both lists. -/
def common (left right : CodeRanges) : CodeRanges :=
  complement (merge (complement left) (complement right))

theorem exists_mem_of_has {ranges : CodeRanges} {n : Nat} (h : ranges.has n) :
    ∃ r ∈ ranges, r.1 ≤ n ∧ n ≤ r.2 := by
  induction ranges with
  | nil => simp [has] at h
  | cons r rest ih =>
    simp only [has, Bool.and_eq_true, Bool.or_eq_true, decide_eq_true_eq] at h
    obtain ⟨hlow, hhigh | hrest⟩ := h
    · exact ⟨r, by simp, hlow, hhigh⟩
    · obtain ⟨s, hs, hn⟩ := ih hrest
      exact ⟨s, by simp [hs], hn⟩

/-- No code point is in both lists: every range of the one lies beside every
range of the other. -/
def apart (left right : CodeRanges) : Bool :=
  left.all fun a => right.all fun b => a.2 < b.1 || b.2 < a.1

theorem not_has_of_apart {left right : CodeRanges} (h : apart left right) {n : Nat}
    (hn : left.has n) : right.has n = false := by
  cases hr : right.has n with
  | false => rfl
  | true =>
    obtain ⟨a, ha, ha'⟩ := exists_mem_of_has hn
    obtain ⟨b, hb, hb'⟩ := exists_mem_of_has hr
    simp only [apart, List.all_eq_true, Bool.or_eq_true, decide_eq_true_eq] at h
    have := h a ha b hb
    omega

end CodeRanges

end LineFilter
