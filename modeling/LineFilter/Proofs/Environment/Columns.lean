import Mathlib.Algebra.GroupWithZero.Nat
import Mathlib.Data.List.TakeWhile
import LineFilter.Proofs.Text.Slice
import LineFilter.Row

/-!
# The columns of a row

A line is its fields with gaps of spaces and tabs around them, and there is one
way to see it so. A column has a number from the left and, unless it is the line
itself, a negative one from the right. No other number finds a column, and to
count from the right never leaves the numbers of 64 bits.
-/

namespace LineFilter

-- ---------------------------------------------------------------------------
-- Runs
-- ---------------------------------------------------------------------------

namespace Text

/-- A text as runs with gaps around them. A gap is of separators and a run of
other characters, one at least; a run goes on up to a separator or to the end,
so that no two of them touch. -/
inductive IsCut (separates : Char → Bool) : Text → List Text → Prop
  | gap {gap} : (∀ c ∈ gap, separates c) → IsCut separates gap []
  | run {gap run rest parts} : (∀ c ∈ gap, separates c) → run ≠ [] →
      (∀ c ∈ run, !separates c) → (∀ c ∈ rest.head?, separates c) →
      IsCut separates rest parts → IsCut separates (gap ++ (run ++ rest)) (run :: parts)

variable {separates : Char → Bool} {gap run rest text : Text} {parts : List Text}

theorem runs_gap (h : ∀ c ∈ gap, separates c) (text : Text) :
    runs separates (gap ++ text) = runs separates text := by
  induction gap with
  | nil => rfl
  | cons c gap ih =>
    rw [List.cons_append, runs, if_pos (h c List.mem_cons_self)]
    exact ih fun d hd => h d (List.mem_cons_of_mem c hd)

theorem runs_run (hne : run ≠ []) (h : ∀ c ∈ run, !separates c)
    (hr : ∀ c ∈ rest.head?, separates c) :
    runs separates (run ++ rest) = run :: runs separates rest := by
  obtain ⟨c, cs, rfl⟩ := List.exists_cons_of_ne_nil hne
  have hc : ¬ separates c := by simpa using h c List.mem_cons_self
  have hends : !rest.head?.any (!separates ·) := by
    cases hd : rest.head? with
    | none => rfl
    | some d => simpa [hd] using hr d hd
  obtain ⟨htake, hdrop⟩ := span_append (fun d hd => h d (List.mem_cons_of_mem c hd)) hends
  rw [List.cons_append, runs, if_neg hc, htake, hdrop]

theorem IsCut.cons {c : Char} (hc : separates c) (h : IsCut separates text parts) :
    IsCut separates (c :: text) parts := by
  cases h with
  | gap hgap => exact .gap (List.forall_mem_cons.mpr ⟨hc, hgap⟩)
  | @run gap _ _ _ hgap hne hrun hr hrest =>
    have hgap' : ∀ d ∈ c :: gap, separates d := List.forall_mem_cons.mpr ⟨hc, hgap⟩
    exact .run hgap' hne hrun hr hrest

theorem isCut_runs (separates : Char → Bool) (text : Text) :
    IsCut separates text (runs separates text) := by
  fun_induction runs separates text with
  | case1 => exact .gap (List.forall_mem_nil _)
  | case2 c cs hc ih => exact ih.cons hc
  | case3 c cs hc ih =>
    have hrun : ∀ d ∈ c :: cs.takeWhile (!separates ·), !separates d := by
      rintro d (_ | ⟨_, hd⟩)
      · simpa using hc
      · simpa using List.mem_takeWhile_imp hd
    have hrest : ∀ d ∈ (cs.dropWhile (!separates ·)).head?, separates d := by
      intro d hd
      have := List.head?_dropWhile_not (!separates ·) cs
      simpa [Option.mem_def.mp hd] using this
    have hcut := IsCut.run (List.forall_mem_nil _) (List.cons_ne_nil c _) hrun hrest ih
    rwa [List.nil_append, List.cons_append, List.takeWhile_append_dropWhile] at hcut

/-- A text is cut in one way only. -/
theorem isCut_iff : IsCut separates text parts ↔ parts = runs separates text := by
  constructor
  · intro h
    induction h with
    | @gap gap hgap =>
      have hruns := runs_gap hgap []
      rw [List.append_nil] at hruns
      rw [hruns, runs]
    | run hgap hne hrun hr _ ih => rw [runs_gap hgap, runs_run hne hrun hr, ih]
  · rintro rfl
    exact isCut_runs separates text

theorem IsCut.not_separates (h : IsCut separates text parts) :
    ∀ part ∈ parts, part ≠ [] ∧ ∀ c ∈ part, !separates c := by
  induction h with
  | gap => exact List.forall_mem_nil _
  | run _ hne hrun _ _ ih => exact List.forall_mem_cons.mpr ⟨⟨hne, hrun⟩, ih⟩

/-- Nothing but separators is lost. -/
theorem IsCut.flatten (h : IsCut separates text parts) :
    parts.flatten = text.filter (!separates ·) := by
  have hgap {gap : Text} (hgap : ∀ c ∈ gap, separates c) : gap.filter (!separates ·) = [] := by
    simpa [List.filter_eq_nil_iff] using hgap
  induction h with
  | gap h => rw [hgap h, List.flatten_nil]
  | run h _ hrun _ _ ih =>
    rw [List.filter_append, List.filter_append, hgap h, List.filter_eq_self.mpr hrun,
      List.flatten_cons, ih, List.nil_append]

end Text

-- ---------------------------------------------------------------------------
-- Rows
-- ---------------------------------------------------------------------------

namespace Row

variable {row : Row} {index : Int}

/-- The columns behind the line itself. -/
def fields (row : Row) : List Text := row.columns.tail

/-- The number of the last column, below zero where there is none. -/
def last (row : Row) : Int := row.columns.length - 1

/-- The columns of a row that a line is cut into. -/
structure CutFrom (row : Row) (line : Text) : Prop where
  /-- Column 0 is the line as it is. -/
  columns : row.columns = line :: row.fields
  whole : row.line = line
  cut : Text.IsCut separates line row.fields
  /-- There are no other fields to cut it into. -/
  unique : ∀ parts, Text.IsCut separates line parts → parts = row.fields
  unblank : ∀ field ∈ row.fields, field ≠ [] ∧ (' ' ∉ field) ∧ ('\t' ∉ field)
  /-- All but spaces and tabs is in the fields, other white space too. -/
  lossless : row.fields.flatten = line.filter fun c => c ≠ ' ' && c ≠ '\t'

theorem cutFrom_ofLine (number : Nat) (line : Text) : (ofLine number line).CutFrom line where
  columns := rfl
  whole := rfl
  cut := Text.isCut_runs separates line
  unique _ h := Text.isCut_iff.mp h
  unblank field h := by
    obtain ⟨hne, hfield⟩ := (Text.isCut_runs separates line).not_separates field h
    have hapart {c : Char} (hc : separates c) : c ∉ field := fun hmem => by
      simpa [hc] using hfield c hmem
    exact ⟨hne, hapart (by decide), hapart (by decide)⟩
  lossless := by
    rw [fields, ofLine, List.tail_cons, (Text.isCut_runs separates line).flatten]
    simp [separates]

-- ---------------------------------------------------------------------------
-- Addresses
-- ---------------------------------------------------------------------------

/-- The column with a number of 64 bits, counted from the right in 64 bits. -/
def columnOfWord? (row : Row) (index : Int64) : Option Text :=
  if index < 0 then
    let fromEnd := Int64.ofNat row.columns.length + index
    if fromEnd < 1 then none else row.columns[fromEnd.toUInt64.toNat]?
  else row.columns[index.toUInt64.toNat]?

theorem column?_natCast (row : Row) (i : Nat) : row.column? i = row.columns[i]? := by
  rw [column?, if_pos (Int.natCast_nonneg i), Int.toNat_natCast]

theorem column?_of_nonneg (h : 0 ≤ index) : row.column? index = row.columns[index.toNat]? :=
  if_pos h

/-- From the right a column is found where its number from the left is. -/
theorem column?_of_neg (h : index < 0) :
    row.column? index = if 1 ≤ row.columns.length + index then
      row.column? (row.columns.length + index) else none := by
  have hcount : row.column? index = if 1 ≤ row.columns.length + index then
      row.columns[(row.columns.length + index).toNat]? else none := if_neg (Int.not_le.mpr h)
  rw [hcount]
  split_ifs with hpos
  · exact (column?_of_nonneg (Int.le_trans Int.one_nonneg hpos)).symm
  · rfl

/-- The line itself has no number from the right. -/
theorem mem_fields_of_column? {text : Text} (h : index < 0) (hc : row.column? index = some text) :
    text ∈ row.fields := by
  rw [column?_of_neg h] at hc
  split_ifs at hc with hpos
  rw [column?_of_nonneg (Int.le_trans Int.one_nonneg hpos)] at hc
  obtain ⟨i, hi⟩ := Nat.exists_eq_add_of_le (Int.le_toNat (by omega) |>.mpr hpos)
  rw [hi, Nat.add_comm, ← List.getElem?_tail] at hc
  exact List.mem_of_getElem? hc

theorem column?_eq_none (h : index < -row.last ∨ row.last < index) : row.column? index = none := by
  rw [last] at h
  rcases Int.lt_or_le index 0 with hneg | hpos
  · rw [column?_of_neg hneg]
    split_ifs with hfront
    · rw [column?_of_nonneg (by omega), List.getElem?_eq_none (by omega)]
    · rfl
  · rw [column?_of_nonneg hpos, List.getElem?_eq_none (by omega)]

theorem columnOfWord?_eq (hrow : row.columns.length < 2 ^ 63) (word : Int64) :
    row.columnOfWord? word = row.column? word.toInt := by
  by_cases hneg : word < 0
  · have hsum := toInt_ofNat_add hrow hneg
    have hcount : row.columnOfWord? word = if Int64.ofNat row.columns.length + word < 1 then none
        else row.columns[(Int64.ofNat row.columns.length + word).toUInt64.toNat]? := if_pos hneg
    rw [hcount, column?_of_neg (Int64.lt_iff_toInt_lt.mp hneg), ← hsum]
    split_ifs with hone hle hle
    · exact absurd hle (Int.not_le.mpr (Int64.lt_iff_toInt_lt.mp hone))
    · rfl
    · have hpos := Int.le_trans Int.one_nonneg hle
      rw [column?_of_nonneg hpos, Int64.toNat_toUInt64_of_le (Int64.le_iff_toInt_le.mpr hpos)]
      rfl
    · exact absurd (Int64.le_iff_toInt_le.mp (Int64.not_lt.mp hone)) hle
  · have hpos := Int64.not_lt.mp hneg
    rw [columnOfWord?, if_neg hneg, column?_of_nonneg (Int64.le_iff_toInt_le.mp hpos),
      Int64.toNat_toUInt64_of_le hpos]
    rfl

/-- Which column each number finds. -/
structure Addressed (row : Row) : Prop where
  fromLeft : ∀ (i : Nat) (h : i < row.columns.length), row.column? i = some row.columns[i]
  fromRight : ∀ k : Int, 1 ≤ k → k ≤ row.last → row.column? (-k) = row.column? (row.last + 1 - k)
  outside : ∀ index : Int, index < -row.last ∨ row.last < index → row.column? index = none
  /-- A row that fits into memory has the same columns under words of 64 bits. -/
  words : row.columns.length < 2 ^ 63 → ∀ word : Int64,
    row.columnOfWord? word = row.column? word.toInt
  /-- No sum of them wraps around. -/
  sums : row.columns.length < 2 ^ 63 → ∀ word : Int64, word < 0 →
    (Int64.ofNat row.columns.length + word).toInt = row.columns.length + word.toInt

theorem addressed (row : Row) : row.Addressed where
  fromLeft i h := by rw [column?_natCast, List.getElem?_eq_getElem h]
  fromRight k hk hlast := by
    rw [last] at hlast ⊢
    rw [column?_of_neg (by omega), if_pos (by omega)]
    congr 1
    omega
  outside _ := column?_eq_none
  words := columnOfWord?_eq
  sums hrow _ := toInt_ofNat_add hrow

/-- Cutting a line loses nothing but its blanks, and every column of every row
has its numbers. -/
theorem cutFrom_and_addressed :
    (∀ number line, (ofLine number line).CutFrom line) ∧ ∀ row : Row, row.Addressed :=
  ⟨cutFrom_ofLine, addressed⟩

end Row

end LineFilter
