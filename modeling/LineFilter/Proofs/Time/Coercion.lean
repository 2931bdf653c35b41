import LineFilter.Proofs.Comparison.Sides
import LineFilter.Proofs.Time.Apart

/-!
# Literals read as columns

Columns are read by the layouts of literals and by more, and what is a date as
a literal is the same date as a column. There is one exception: a literal may
leave out the year, and no layout of columns takes such a text.
-/

namespace LineFilter

namespace Layout

variable {layout other : Layout} {clock : Clock} {text : Text} {i : Instant}

theorem take_of_read? (h : layout.read? clock text = some i) :
    LayoutItem.Take layout.items text := by
  simp only [read?, wall?, Option.bind_eq_bind, Option.bind_eq_some_iff] at h
  obtain ⟨wall, ⟨f, hf, -⟩, -⟩ := h
  exact ⟨.none, f, hf⟩

/-- A layout does not read what is read by one that it can be told apart from. -/
theorem read?_eq_none_of_apart (h : LayoutItem.apart layout.items other.items)
    (ho : other.read? clock text = some i) : layout.read? clock text = none := by
  rw [Option.eq_none_iff_forall_ne_some]
  intro j hj
  exact LayoutItem.not_take_of_apart h (take_of_read? hj) (take_of_read? ho)

theorem findSome?_eq_none_of_apart {layouts : List Layout}
    (h : ∀ layout ∈ layouts, LayoutItem.apart layout.items other.items)
    (ho : other.read? clock text = some i) : layouts.findSome? (·.read? clock text) = none := by
  rw [List.findSome?_eq_none_iff]
  exact fun layout hl => read?_eq_none_of_apart (h layout hl) ho

/-- Layouts that do not read a text can be left out of a table. -/
theorem findSome?_filter {read : Layout → Option Instant} {keep : Layout → Bool}
    {layouts : List Layout} (h : ∀ layout ∈ layouts, !keep layout → read layout = none) :
    (layouts.filter keep).findSome? read = layouts.findSome? read := by
  induction layouts with
  | nil => rfl
  | cons layout layouts ih =>
    have hrest := ih fun l hl => h l (List.mem_cons_of_mem _ hl)
    cases hk : keep layout with
    | true => rw [List.filter_cons_of_pos hk, List.findSome?_cons, List.findSome?_cons, hrest]
    | false =>
      rw [List.filter_cons_of_neg (by simp [hk]), List.findSome?_cons, hrest,
        h layout List.mem_cons_self (by simp [hk])]

-- ---------------------------------------------------------------------------
-- The tables
-- ---------------------------------------------------------------------------

/-- Whether a layout leaves out the year. -/
def leavesOutYear (layout : Layout) : Bool := layout.assumed = .year

/-- The layouts of literals that leave out the year. -/
def yearless : List Layout := literals.filter leavesOutYear

theorem literals_with_year : literals.filter (!leavesOutYear ·) =
    timestamps dashedDate ++ timestamps compactDate := by
  decide

theorem exists_columns : ∃ others, columns =
    timestamps dashedDate ++ localTime dashedDate .day :: (timestamps compactDate ++ others) :=
  ⟨_, rfl⟩

theorem columns_apart_yearless :
    ∀ other ∈ yearless, ∀ layout ∈ columns, LayoutItem.apart layout.items other.items := by
  decide

theorem dashedDate_apart_compact :
    ∀ other ∈ timestamps compactDate, LayoutItem.apart dashedDate other.items := by
  decide

/-- No layout of columns takes a text without a year. -/
theorem columns_of_yearless (h : readFirst? yearless clock text = some i) :
    readFirst? columns clock text = none := by
  obtain ⟨other, hother, ho⟩ := List.exists_of_findSome?_eq_some h
  exact findSome?_eq_none_of_apart (columns_apart_yearless other hother) ho

/-- A literal without a year has only that meaning. -/
theorem literals_of_yearless (h : readFirst? yearless clock text = some i) :
    readFirst? literals clock text = some i := by
  have hcolumns := List.findSome?_eq_none_iff.mp (columns_of_yearless h)
  obtain ⟨others, hothers⟩ := exists_columns
  rw [← h]
  refine (findSome?_filter ?_).symm
  intro layout hl hyear
  have hmem : layout ∈ timestamps dashedDate ++ timestamps compactDate := by
    rw [← literals_with_year]
    exact List.mem_filter.mpr ⟨hl, hyear⟩
  refine hcolumns layout ?_
  rw [hothers]
  rcases List.mem_append.mp hmem with hm | hm <;> simp [hm]

/-- A literal with a year is the same date in a column. -/
theorem columns_of_literals (h : readFirst? literals clock text = some i)
    (hy : readFirst? yearless clock text = none) : readFirst? columns clock text = some i := by
  have hwith : (timestamps dashedDate ++ timestamps compactDate).findSome?
      (·.read? clock text.squeeze) = some i := by
    rw [← literals_with_year, findSome?_filter]
    · exact h
    · intro layout hl hyear
      refine List.findSome?_eq_none_iff.mp hy layout (List.mem_filter.mpr ⟨hl, ?_⟩)
      simpa using hyear
  obtain ⟨others, hothers⟩ := exists_columns
  rw [readFirst?, hothers, List.findSome?_append, List.findSome?_cons, List.findSome?_append]
  rw [List.findSome?_append] at hwith
  cases hdashed : (timestamps dashedDate).findSome? (·.read? clock text.squeeze) with
  | some j => simpa [hdashed] using hwith
  | none =>
    have hcompact : (timestamps compactDate).findSome? (·.read? clock text.squeeze) = some i := by
      simpa [hdashed] using hwith
    obtain ⟨other, hother, ho⟩ := List.exists_of_findSome?_eq_some hcompact
    have hdate : (localTime dashedDate .day).read? clock text.squeeze = none :=
      read?_eq_none_of_apart (dashedDate_apart_compact other hother) ho
    simp [hdate, hcompact]

-- ---------------------------------------------------------------------------
-- A literal and a column with the same text
-- ---------------------------------------------------------------------------

theorem order_ofDate {v : Value} (h : Value.ofDate clock text = .ok v) :
    ∃ i, readFirst? literals clock text = some i ∧ Value.order clock (.untyped text) v =
      (readFirst? columns clock text).map fun j => j.order i := by
  unfold Value.ofDate at h
  split at h
  · rename_i i hi
    cases h
    refine ⟨i, hi, ?_⟩
    rw [Value.order]
    · cases hc : readFirst? columns clock text <;>
        simp [Value.typed?, Typed.adopt, Typed.order, hc]
    · simp
  · simp at h

/-- What a text that is a literal means in a column. -/
structure Coerces (clock : Clock) (text : Text) : Prop where
  /-- With a year it is the same date. -/
  dated : readFirst? yearless clock text = none → ∀ i, readFirst? literals clock text = some i →
    readFirst? columns clock text = some i
  /-- Without one it is a date in a script only. -/
  undated : ∀ i, readFirst? yearless clock text = some i →
    readFirst? literals clock text = some i ∧ readFirst? columns clock text = none
  compared : ∀ v, Value.ofDate clock text = .ok v → Value.order clock (.untyped text) v =
    if readFirst? yearless clock text = none then some .eq else none

theorem literals_coerce (clock : Clock) (text : Text) : Coerces clock text where
  dated hy i h := columns_of_literals h hy
  undated i h := ⟨literals_of_yearless h, columns_of_yearless h⟩
  compared v h := by
    obtain ⟨i, hi, horder⟩ := order_ofDate h
    rw [horder]
    cases hy : readFirst? yearless clock text with
    | none =>
      rw [columns_of_literals hi hy]
      exact congrArg some Std.ReflCmp.compare_self
    | some j =>
      rw [columns_of_yearless hy]
      rfl

/-- Month and day are a date in a script, but none in a column. -/
theorem monthDay_does_not_coerce :
    readFirst? literals ⟨1773500966, 0, .utc⟩ "10-11T".toList = some ⟨1791676800, 0, 0⟩ ∧
      readFirst? columns ⟨1773500966, 0, .utc⟩ "10-11T".toList = none := by
  have hsqueeze : Text.squeeze "10-11T".toList = "10-11T".toList := by
    simp [Text.squeeze, Text.words, Text.runs, Text.join, isBlank, whiteSpace, CodeRanges.has]
  rw [readFirst?, readFirst?, hsqueeze]
  decide

end Layout

end LineFilter
