import Mathlib.Algebra.GroupWithZero.Nat
import Mathlib.Data.List.Basic
import LineFilter.Text.Slice

/-!
# The characters of a slice

A bound of a slice is a place in the text, whichever way it is written: counted
from the end, beyond either end or left out. A slice is the characters between
two places. So a bound cuts a text in two pieces without a loss, a slice of a
slice is a slice of the text, and to count from the end never leaves the numbers
of 64 bits.
-/

namespace LineFilter

/-- A count and a negative number of 64 bits have a sum of 64 bits. -/
theorem toInt_ofNat_add {count : Nat} {word : Int64} (hcount : count < 2 ^ 63) (h : word < 0) :
    (Int64.ofNat count + word).toInt = count + word.toInt := by
  have hneg : word.toInt < 0 := Int64.lt_iff_toInt_lt.mp h
  have hmin := word.le_toInt
  rw [Int64.toInt_add, Int64.toInt_ofNat_of_lt hcount]
  exact Int.bmod_eq_of_le (by omega) (by omega)

namespace Text

variable {text : Text} {length i j k : Nat} {start stop : Option Int}

-- ---------------------------------------------------------------------------
-- Places
-- ---------------------------------------------------------------------------

/-- The place in a text of so many characters where a slice starts. -/
def startPlace (length : Nat) (start : Option Int) : Nat := start.elim 0 (clamp length)

/-- The place behind the last character of a slice. -/
def stopPlace (length : Nat) (stop : Option Int) : Nat := stop.elim length (clamp length)

/-- A bound below zero is counted from the end, and a place outside of the text
is moved to the nearer end. -/
theorem clamp_eq (length : Nat) (bound : Int) :
    (clamp length bound : Int) =
      min (max (if bound < 0 then length + bound else bound) 0) length := by
  rw [clamp]
  omega

theorem clamp_natCast (h : k ≤ length) : clamp length k = k := by
  rw [clamp, if_neg (Int.not_lt.mpr (Int.natCast_nonneg k)), Int.toNat_natCast, Nat.min_eq_left h]

theorem startPlace_le (length : Nat) (start : Option Int) : startPlace length start ≤ length := by
  cases start with
  | none => exact Nat.zero_le length
  | some bound => exact clamp_le length bound

theorem stopPlace_le (length : Nat) (stop : Option Int) : stopPlace length stop ≤ length := by
  cases stop with
  | none => exact Nat.le_refl length
  | some bound => exact clamp_le length bound

theorem slice_eq (text : Text) (start stop : Option Int) :
    text.slice start stop =
      (text.take (stopPlace text.length stop)).drop (startPlace text.length start) := rfl

-- ---------------------------------------------------------------------------
-- Characters
-- ---------------------------------------------------------------------------

theorem length_slice (text : Text) (start stop : Option Int) :
    (text.slice start stop).length =
      stopPlace text.length stop - startPlace text.length start := by
  rw [slice_eq, List.length_drop, List.length_take, Nat.min_eq_left (stopPlace_le _ stop)]

theorem getElem?_slice (text : Text) (start stop : Option Int) (k : Nat) :
    (text.slice start stop)[k]? =
      if startPlace text.length start + k < stopPlace text.length stop then
        text[startPlace text.length start + k]? else none := by
  rw [slice_eq, List.getElem?_drop, List.getElem?_take]

theorem slice_append_slice (text : Text) (bound : Int) :
    text.slice none (some bound) ++ text.slice (some bound) none = text := by
  have hfront : text.slice none (some bound) = text.take (clamp text.length bound) := rfl
  have hback : text.slice (some bound) none = text.drop (clamp text.length bound) := by
    rw [slice_eq, stopPlace, Option.elim_none, List.take_length]
    rfl
  rw [hfront, hback, List.take_append_drop]

theorem slice_natCast (hi : i ≤ text.length) (hj : j ≤ text.length) :
    text.slice (some i) (some j) = (text.take j).drop i := by
  have hstart : startPlace text.length (some i) = i := clamp_natCast hi
  have hstop : stopPlace text.length (some j) = j := clamp_natCast hj
  rw [slice_eq, hstart, hstop]

/-- The bounds of a slice of a slice are places in the slice, and behind its
start places in the text. -/
theorem slice_slice (hij : i ≤ j) (hj : j ≤ text.length) (start stop : Option Int) :
    (text.slice (some i) (some j)).slice start stop =
      text.slice (some (i + startPlace (j - i) start : Nat))
        (some (i + stopPlace (j - i) stop : Nat)) := by
  have hlength : ((text.take j).drop i).length = j - i := by
    rw [List.length_drop, List.length_take, Nat.min_eq_left hj]
  have hstart := startPlace_le (j - i) start
  have hstop := stopPlace_le (j - i) stop
  rw [slice_natCast (Nat.le_trans hij hj) hj, slice_natCast (by omega) (by omega), slice_eq,
    hlength, List.take_drop, List.drop_drop, List.take_take, Nat.min_eq_left (by omega)]

-- ---------------------------------------------------------------------------
-- Words
-- ---------------------------------------------------------------------------

/-- `clamp` in numbers of 64 bits. -/
def clampWord (length : Nat) (bound : Int64) : Nat :=
  let limit := Int64.ofNat length
  let place := if bound < 0 then limit + bound else bound
  let place := if place < 0 then 0 else if limit < place then limit else place
  place.toUInt64.toNat

/-- `slice` with bounds of 64 bits. -/
def sliceOfWords (text : Text) (start stop : Option Int64) : Text :=
  let first := start.elim 0 (clampWord text.length)
  let last := stop.elim text.length (clampWord text.length)
  if last ≤ first then [] else text.extract first last

theorem toInt_place (hlength : length < 2 ^ 63) (word : Int64) :
    (if word < 0 then Int64.ofNat length + word else word).toInt =
      if word.toInt < 0 then length + word.toInt else word.toInt := by
  have hsign : word < 0 ↔ word.toInt < 0 := Int64.lt_iff_toInt_lt
  split_ifs with hneg hneg' hneg'
  · exact toInt_ofNat_add hlength hneg
  · exact absurd (hsign.mp hneg) hneg'
  · exact absurd (hsign.mpr hneg') hneg
  · rfl

/-- A number of 64 bits moved between zero and a count. -/
theorem toNat_moved (hlength : length < 2 ^ 63) (place : Int64) :
    (if place < 0 then 0 else if Int64.ofNat length < place then Int64.ofNat length
      else place).toUInt64.toNat = min place.toInt.toNat length := by
  have hlimit : (Int64.ofNat length).toInt = length := Int64.toInt_ofNat_of_lt hlength
  have hfront : place < 0 ↔ place.toInt < 0 := Int64.lt_iff_toInt_lt
  have hbehind : Int64.ofNat length < place ↔ (length : Int) < place.toInt := by
    rw [Int64.lt_iff_toInt_lt, hlimit]
  have hword {word : Int64} (h : 0 ≤ word.toInt) : word.toUInt64.toNat = word.toInt.toNat :=
    Int64.toNat_toUInt64_of_le (Int64.le_iff_toInt_le.mpr h)
  split_ifs with hneg hover
  · have := hfront.mp hneg
    rw [Int.toNat_of_nonpos (by omega), Nat.zero_min]
    rfl
  · have := hbehind.mp hover
    rw [hword (by omega), hlimit]
    omega
  · rw [hfront] at hneg
    rw [hbehind] at hover
    rw [hword (by omega)]
    omega

theorem clampWord_eq (hlength : length < 2 ^ 63) (word : Int64) :
    clampWord length word = clamp length word.toInt := by
  rw [clampWord, toNat_moved hlength, toInt_place hlength, clamp]

theorem sliceOfWords_eq (htext : text.length < 2 ^ 63) (start stop : Option Int64) :
    text.sliceOfWords start stop = text.slice (start.map Int64.toInt) (stop.map Int64.toInt) := by
  have hclamp : clampWord text.length = clamp text.length ∘ Int64.toInt :=
    funext (clampWord_eq htext)
  have hstart : start.elim 0 (clampWord text.length) =
      startPlace text.length (start.map Int64.toInt) := by
    rw [hclamp]
    cases start <;> rfl
  have hstop : stop.elim text.length (clampWord text.length) =
      stopPlace text.length (stop.map Int64.toInt) := by
    rw [hclamp]
    cases stop <;> rfl
  rw [sliceOfWords, hstart, hstop, slice_eq]
  split_ifs with hempty
  · rw [List.drop_eq_nil_of_le (by rw [List.length_take]; omega)]
  · rw [List.extract_eq_take_drop, List.drop_take]

-- ---------------------------------------------------------------------------
-- Slices
-- ---------------------------------------------------------------------------

/-- What the slices of a text are. -/
structure Sliced (text : Text) : Prop where
  /-- Where a bound stands. -/
  place : ∀ bound : Int, startPlace text.length (some bound) = stopPlace text.length (some bound) ∧
    (startPlace text.length (some bound) : Int) =
      min (max (if bound < 0 then text.length + bound else bound) 0) text.length
  whole : startPlace text.length none = 0 ∧ stopPlace text.length none = text.length
  /-- The characters from one place up to the other. -/
  character : ∀ start stop k, (text.slice start stop)[k]? =
    if startPlace text.length start + k < stopPlace text.length stop then
      text[startPlace text.length start + k]? else none
  count : ∀ start stop, (text.slice start stop).length =
    stopPlace text.length stop - startPlace text.length start
  empty : ∀ start stop, stopPlace text.length stop ≤ startPlace text.length start →
    text.slice start stop = []
  /-- Every bound cuts the text in two. -/
  pieces : ∀ bound : Int, text.slice none (some bound) ++ text.slice (some bound) none = text
  again : ∀ i j : Nat, i ≤ j → j ≤ text.length → ∀ start stop,
    (text.slice (some i) (some j)).slice start stop =
      text.slice (some (i + startPlace (j - i) start : Nat))
        (some (i + stopPlace (j - i) stop : Nat))
  /-- A text that fits into memory has the same slices under words of 64 bits. -/
  words : text.length < 2 ^ 63 → ∀ start stop : Option Int64,
    text.sliceOfWords start stop = text.slice (start.map Int64.toInt) (stop.map Int64.toInt)
  /-- No sum of them wraps around. -/
  sums : text.length < 2 ^ 63 → ∀ word : Int64, word < 0 →
    (Int64.ofNat text.length + word).toInt = text.length + word.toInt

/-- A slice is the characters between two places in the text, for all bounds. -/
theorem sliced (text : Text) : text.Sliced where
  place bound := ⟨rfl, clamp_eq text.length bound⟩
  whole := ⟨rfl, rfl⟩
  character := text.getElem?_slice
  count := text.length_slice
  empty start stop h := by
    rw [← List.length_eq_zero_iff, length_slice, Nat.sub_eq_zero_of_le h]
  pieces := text.slice_append_slice
  again _ _ hij hj := slice_slice hij hj
  words := sliceOfWords_eq
  sums htext _ := toInt_ofNat_add htext

-- The least and the greatest bound of 64 bits.
example : sliceOfWords "héllo".toList (some Int64.minValue) (some Int64.maxValue) =
    "héllo".toList := by decide

end Text

end LineFilter
