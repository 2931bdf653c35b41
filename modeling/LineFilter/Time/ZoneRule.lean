import LineFilter.Time.Zone

/-!
# Zones that follow a rule

The offset of a zone stays the same, or clocks change to summer time and back on
two days of every year.
-/

namespace LineFilter

/-- A yearly change: the given weekday (from 0 for Sunday) of the given week of
a month, week 5 being the last, and the time of day in seconds. -/
structure ZoneChange where
  month : Nat
  week : Nat
  weekday : Nat
  second : Int
deriving DecidableEq, Repr

namespace ZoneChange

/-- The day of the change in a year. -/
def dayNumber (c : ZoneChange) (year : Int) : Int :=
  let first := Date.number ⟨year, c.month, 1⟩
  let length := ((Date.monthLengths year)[c.month - 1]?).getD 31
  let lead := (c.weekday + 7 - Date.weekdayOf first) % 7
  let day := lead + 7 * (c.week - 1)
  first + (if day < length then day else day - 7)

/-- The wall time of the change in a year, in seconds since day 0. -/
def count (c : ZoneChange) (year : Int) : Int :=
  c.dayNumber year * WallTime.secondsPerDay + c.second

end ZoneChange

namespace LocalOffset

variable {offsets : List Int} {offset earliest latest : Int}

/-- The offsets of a wall time from a list of them, the one of its earliest instant first. -/
def ofList : List Int → LocalOffset
  | [] => .skipped
  | [offset] => .once offset
  | earliest :: latest :: _ => .twice earliest latest

theorem ofList_eq_skipped : ofList offsets = .skipped ↔ offsets = [] := by
  rcases offsets with _ | ⟨first, _ | ⟨second, rest⟩⟩ <;> simp [ofList]

theorem ofList_eq_once : ofList offsets = .once offset ↔ offsets = [offset] := by
  rcases offsets with _ | ⟨first, _ | ⟨second, rest⟩⟩ <;> simp [ofList]

theorem ofList_eq_twice :
    ofList offsets = .twice earliest latest ↔ ∃ rest, offsets = earliest :: latest :: rest := by
  rcases offsets with _ | ⟨first, _ | ⟨second, rest⟩⟩ <;> simp [ofList]

end LocalOffset

inductive ZoneRule
  | fixed (offset : Int)
  /-- Summer time from `start` to `finish`; each is read on the clock that it ends. -/
  | yearly (standard summer : Int) (start finish : ZoneChange)
deriving DecidableEq, Repr

namespace ZoneRule

variable {rule : ZoneRule} {w : WallTime} {offset earliest latest : Int}

/-- The offset at a second of universal time. -/
def offsetAt : ZoneRule → Int → Int
  | .fixed offset, _ => offset
  | .yearly standard summer start finish, t =>
    let year := (Date.ofNumber ((t + standard) / WallTime.secondsPerDay)).year
    let begins := start.count year - standard
    let ends := finish.count year - summer
    let isSummer :=
      if begins < ends then begins ≤ t && t < ends else !(ends ≤ t && t < begins)
    if isSummer then summer else standard

/-- The offsets of a rule, the greatest first. -/
def offsets : ZoneRule → List Int
  | .fixed offset => [offset]
  | .yearly standard summer _ _ =>
    if standard = summer then [standard] else [max standard summer, min standard summer]

/-- The offsets with which clocks show a wall time. -/
def shownOffsets (rule : ZoneRule) (w : WallTime) : List Int :=
  rule.offsets.filter fun offset => w.IsShown rule.offsetAt offset

def offsetsOf (rule : ZoneRule) (w : WallTime) : LocalOffset := .ofList (rule.shownOffsets w)

/-- All offsets are less than a day. -/
def WithinDay (rule : ZoneRule) : Prop :=
  ∀ offset ∈ rule.offsets, offset.natAbs < WallTime.secondsPerDay

instance : DecidablePred WithinDay :=
  fun rule => inferInstanceAs (Decidable (∀ offset ∈ rule.offsets, _))

theorem offsetAt_mem (rule : ZoneRule) (t : Int) : rule.offsetAt t ∈ rule.offsets := by
  cases rule with
  | fixed offset => exact List.mem_singleton_self offset
  | yearly standard summer start finish =>
    simp only [offsetAt, offsets]
    split <;> split <;> simp <;> omega

theorem offsets_sorted (rule : ZoneRule) : rule.offsets.Pairwise (· > ·) := by
  cases rule with
  | fixed offset => exact List.pairwise_singleton _ _
  | yearly standard summer start finish =>
    simp only [offsets]
    split
    · exact List.pairwise_singleton _ _
    · simp only [List.pairwise_pair]
      omega

theorem length_offsets (rule : ZoneRule) : rule.offsets.length ≤ 2 := by
  cases rule with
  | fixed offset => exact Nat.le_succ 1
  | yearly standard summer start finish =>
    simp only [offsets]
    split <;> simp

theorem mem_shownOffsets : offset ∈ rule.shownOffsets w ↔ w.IsShown rule.offsetAt offset := by
  simp only [shownOffsets, List.mem_filter, decide_eq_true_eq, and_iff_right_iff_imp]
  intro h
  exact h ▸ rule.offsetAt_mem _

theorem of_skipped (h : rule.offsetsOf w = .skipped) (offset : Int) :
    ¬ w.IsShown rule.offsetAt offset := by
  rw [← mem_shownOffsets, LocalOffset.ofList_eq_skipped.mp h]
  exact List.not_mem_nil

theorem of_once (h : rule.offsetsOf w = .once offset) (other : Int) :
    w.IsShown rule.offsetAt other ↔ other = offset := by
  rw [← mem_shownOffsets, LocalOffset.ofList_eq_once.mp h]
  exact List.mem_singleton

theorem of_twice (h : rule.offsetsOf w = .twice earliest latest) :
    w.IsShown rule.offsetAt earliest ∧ w.IsShown rule.offsetAt latest ∧
      ∀ offset, w.IsShown rule.offsetAt offset → latest ≤ offset ∧ offset ≤ earliest := by
  have hlength : (rule.shownOffsets w).length ≤ 2 :=
    Nat.le_trans (List.length_filter_le _ _) rule.length_offsets
  have hsorted : (rule.shownOffsets w).Pairwise (· > ·) := rule.offsets_sorted.filter _
  obtain ⟨rest, hs⟩ := LocalOffset.ofList_eq_twice.mp h
  rw [hs] at hlength hsorted
  obtain rfl : rest = [] := by simpa using hlength
  have hlt : latest < earliest := by simpa using hsorted
  simp only [← mem_shownOffsets, hs]
  refine ⟨by simp, by simp, fun offset hoffset => ?_⟩
  simp only [List.mem_cons, List.not_mem_nil, or_false] at hoffset
  omega

/-- The zone that follows a rule. -/
def zone (rule : ZoneRule) (h : rule.WithinDay) : Zone where
  offsetAt := rule.offsetAt
  offsetsOf := rule.offsetsOf
  natAbs_offsetAt_lt t := h _ (rule.offsetAt_mem t)
  of_skipped _ := of_skipped
  of_once _ := of_once
  of_twice _ := of_twice

end ZoneRule

end LineFilter
