import LineFilter.Environment
import LineFilter.Proofs.Environment.Columns
import LineFilter.Proofs.Script.Tiling
import LineFilter.Proofs.Text.Padded

/-!
# References from the right

A script refers to a field by its number from the right, to the last one as
`%-1`. The number is kept as it is spelled and read on every line: it finds the
field, or nothing on a line that has not so many. Only zero is no number from
the right. Minus zero is zero, so `%-0` is the line itself.
-/

namespace LineFilter

-- ---------------------------------------------------------------------------
-- Tokens
-- ---------------------------------------------------------------------------

/-- A column token that counts from the right has digits behind its sign. -/
theorem Token.digits_of_fromRight {digits spelling : Text}
    (h : (column ('%' :: '-' :: digits)).SpelledBy spelling) :
    digits ≠ [] ∧ ∀ c ∈ digits, Text.isDigit c := by
  cases h with
  | column hname =>
    cases hname with
    | fromLeft hd => exact absurd (hd '-' List.mem_cons_self) (by decide)
    | fromRight hd => exact ⟨List.cons_ne_nil _ _, hd⟩

-- ---------------------------------------------------------------------------
-- Rows
-- ---------------------------------------------------------------------------

namespace Row

open Digits (spelled)

variable {row : Row} {digits line : Text}

theorem index?_fromRight (hne : digits ≠ []) (h : ∀ c ∈ digits, Text.isDigit c) :
    index? ('-' :: digits) = (some (-(spelled digits : Int))).filter IntegerLiteral.fits := by
  simp [index?, IntegerLiteral.splitSign, Digits.read?_digits h hne]

/-- A number that is too large for 64 bits is also too large for the row. -/
theorem lookup?_fromRight (hne : digits ≠ []) (h : ∀ c ∈ digits, Text.isDigit c) :
    row.lookup? ('-' :: digits) = if IntegerLiteral.fits (-(spelled digits : Int)) then
      row.column? (-(spelled digits : Int)) else none := by
  rw [lookup?, if_neg (by simp), index?_fromRight hne h, Option.filter_some]
  split_ifs <;> rfl

theorem CutFrom.length_columns (h : row.CutFrom line) :
    row.columns.length = row.fields.length + 1 := by
  rw [h.columns]
  rfl

theorem CutFrom.column?_zero (h : row.CutFrom line) : row.column? 0 = some row.line := by
  rw [h.whole]
  exact (row.column?_natCast 0).trans (by rw [h.columns, List.getElem?_cons_zero])

/-- Among `n` fields the one with number `k` from the right has number `n + 1 - k`
from the left. -/
theorem CutFrom.field_fromRight (h : row.CutFrom line) {k : Nat} (hk : 0 < k)
    (hle : k ≤ row.fields.length) : ∃ field ∈ row.fields,
      row.columns[row.fields.length + 1 - k]? = some field ∧ row.column? (-k) = some field := by
  have hlength := h.length_columns
  have hlt : row.fields.length + 1 - k < row.columns.length := by omega
  have hleft : row.last + 1 - k = (row.fields.length + 1 - k : Nat) := by
    rw [Row.last]
    omega
  have hcolumn : row.column? (-k) = some row.columns[row.fields.length + 1 - k] := by
    rw [row.addressed.fromRight k (by omega) (by rw [Row.last]; omega), hleft,
      row.addressed.fromLeft _ hlt]
  exact ⟨_, mem_fields_of_column? (by omega) hcolumn, List.getElem?_eq_getElem hlt, hcolumn⟩

/-- A line that is one of several fields would have no blank between them. -/
theorem CutFrom.line_not_mem_fields (h : row.CutFrom line) (hn : 2 ≤ row.fields.length) :
    line ∉ row.fields := by
  intro hmem
  obtain ⟨hne, hline⟩ := h.cut.not_separates line hmem
  have hone : Text.IsCut separates ([] ++ (line ++ [])) [line] :=
    .run (List.forall_mem_nil _) hne hline nofun (.gap (List.forall_mem_nil _))
  rw [List.nil_append, List.append_nil] at hone
  rw [← h.unique _ hone] at hn
  simp at hn

theorem CutFrom.line_ne_nil (h : row.CutFrom line) (hn : 2 ≤ row.fields.length) : line ≠ [] := by
  rintro rfl
  rw [← h.unique [] (.gap (List.forall_mem_nil _))] at hn
  simp at hn

end Row

-- ---------------------------------------------------------------------------
-- Environments
-- ---------------------------------------------------------------------------

namespace Environment

open Digits (spelled)

variable {env : Environment} {row : Row} {digits : Text}

theorem lookup_reference (h : env.row = some row) (reference : Text) :
    env.lookup ('%' :: reference) = ((row.lookup? reference).map Value.untyped).getD .empty := by
  rw [lookup, h, Option.bind_some]
  cases row.lookup? reference <;> rfl

section Digits

variable {line : Text} (hrow : env.row = some row) (hne : digits ≠ [])
  (hdigits : ∀ c ∈ digits, Text.isDigit c)
include hrow hne hdigits

theorem lookup_digits : env.lookup ('%' :: '-' :: digits) =
    ((if IntegerLiteral.fits (-(spelled digits : Int)) then
      row.column? (-(spelled digits : Int)) else none).map Value.untyped).getD .empty := by
  rw [lookup_reference hrow, Row.lookup?_fromRight hne hdigits]

theorem field_or_empty_of_digits (hpos : 0 < spelled digits) :
    env.lookup ('%' :: '-' :: digits) = .empty ∨
      ∃ field ∈ row.fields, env.lookup ('%' :: '-' :: digits) = .untyped field := by
  rw [lookup_digits hrow hne hdigits]
  split_ifs
  · cases hc : row.column? (-(spelled digits : Int)) with
    | none => exact .inl rfl
    | some text => exact .inr ⟨text, Row.mem_fields_of_column? (by omega) hc, rfl⟩
  · exact .inl rfl

theorem field_of_digits (hcut : row.CutFrom line) (hmemory : row.columns.length < 2 ^ 63)
    (hpos : 0 < spelled digits) (hle : spelled digits ≤ row.fields.length) :
    ∃ field ∈ row.fields, row.columns[row.fields.length + 1 - spelled digits]? = some field ∧
      env.lookup ('%' :: '-' :: digits) = .untyped field := by
  have hlength := hcut.length_columns
  have hfits : IntegerLiteral.fits (-(spelled digits : Int)) := by
    simp only [IntegerLiteral.fits, Bool.and_eq_true, decide_eq_true_eq]
    omega
  obtain ⟨field, hmem, hleft, hright⟩ := hcut.field_fromRight hpos hle
  refine ⟨field, hmem, hleft, ?_⟩
  rw [lookup_digits hrow hne hdigits, if_pos hfits, hright]
  rfl

theorem lookup_of_lt (hcut : row.CutFrom line) (hlt : row.fields.length < spelled digits) :
    env.lookup ('%' :: '-' :: digits) = .empty := by
  have hlength := hcut.length_columns
  rw [lookup_digits hrow hne hdigits, Row.column?_eq_none (.inl (by rw [Row.last]; omega))]
  split_ifs <;> rfl

theorem lookup_ne_line (hcut : row.CutFrom line) (hpos : 0 < spelled digits)
    (hn : 2 ≤ row.fields.length) : env.lookup ('%' :: '-' :: digits) ≠ .untyped row.line := by
  intro heq
  rcases field_or_empty_of_digits hrow hne hdigits hpos with hempty | ⟨field, hmem, hfield⟩
  · rw [hempty, hcut.whole] at heq
    exact hcut.line_ne_nil hn (Value.untyped.inj heq).symm
  · rw [hfield, hcut.whole] at heq
    exact hcut.line_not_mem_fields hn (Value.untyped.inj heq ▸ hmem)

theorem lookup_of_zero (hcut : row.CutFrom line) (hzero : spelled digits = 0) :
    env.lookup ('%' :: '-' :: digits) = .untyped row.line := by
  rw [lookup_digits hrow hne hdigits, hzero, Int.natCast_zero, Int.neg_zero, hcut.column?_zero]
  rfl

end Digits

/-- What `%-` and some digits stand for on a line with these columns. -/
structure CountsFromRight (env : Environment) (row : Row) (digits : Text) : Prop where
  /-- It is a field or nothing. -/
  field_or_empty : 0 < spelled digits → env.lookup ('%' :: '-' :: digits) = .empty ∨
    ∃ field ∈ row.fields, env.lookup ('%' :: '-' :: digits) = .untyped field
  /-- In a row that fits into memory it is the field with that number from the
  right. -/
  field : row.columns.length < 2 ^ 63 → 0 < spelled digits →
    spelled digits ≤ row.fields.length → ∃ field ∈ row.fields,
      row.columns[row.fields.length + 1 - spelled digits]? = some field ∧
        env.lookup ('%' :: '-' :: digits) = .untyped field
  beyond : row.fields.length < spelled digits → env.lookup ('%' :: '-' :: digits) = .empty
  /-- It is never a line of several fields. -/
  apart : 0 < spelled digits → 2 ≤ row.fields.length →
    env.lookup ('%' :: '-' :: digits) ≠ .untyped row.line
  /-- Zero is no number from the right. -/
  zero : spelled digits = 0 → env.lookup ('%' :: '-' :: digits) = .untyped row.line

theorem lookup_fromRight {number : Nat} {line script : Text}
    (hrow : env.row = some (.ofLine number line))
    (htoken : Token.column ('%' :: '-' :: digits) ∈ (TokenStream.ofScript script).tokens) :
    env.CountsFromRight (.ofLine number line) digits := by
  obtain ⟨spelling, hspelling⟩ := TokenStream.exists_spelledBy htoken
  obtain ⟨hne, hdigits⟩ := Token.digits_of_fromRight hspelling
  have hcut := Row.cutFrom_ofLine number line
  constructor
  case field_or_empty => exact field_or_empty_of_digits hrow hne hdigits
  case field => exact field_of_digits hrow hne hdigits hcut
  case beyond => exact lookup_of_lt hrow hne hdigits hcut
  case apart => exact lookup_ne_line hrow hne hdigits hcut
  case zero => exact lookup_of_zero hrow hne hdigits hcut

/-- A line of two fields. -/
def pair : Environment := ofRow ⟨0, 0, .utc⟩ (.ofLine 0 "a b".toList)

theorem lookup_fromRight_padded :
    pair.row = some (.ofLine 0 "a b".toList) ∧
      Token.column "%-01".toList ∈ (TokenStream.ofScript "%-01 < 5".toList).tokens ∧
        pair.lookup "%-01".toList = .untyped ['b'] := by
  have htoken : Token.column ('%' :: '-' :: ['0', '1']) ∈
      (TokenStream.ofScript "%-01 < 5".toList).tokens := by decide +kernel
  refine ⟨rfl, htoken, ?_⟩
  have hcounts : pair.CountsFromRight (.ofLine 0 "a b".toList) ['0', '1'] :=
    lookup_fromRight rfl htoken
  obtain ⟨field, -, hcolumn, hlookup⟩ := hcounts.field (by decide +kernel) (by decide +kernel)
    (by decide +kernel)
  have hlast : (Row.ofLine 0 "a b".toList).columns[(Row.ofLine 0 "a b".toList).fields.length + 1 -
      spelled ['0', '1']]? = some ['b'] := by decide +kernel
  cases hlast.symm.trans hcolumn
  exact hlookup

/-- A sign does not make zero count from the right. -/
theorem lookup_minusZero :
    Token.column "%-0".toList ∈ (TokenStream.ofScript "%-0 < 5".toList).tokens ∧
      (Row.ofLine 0 "a b".toList).fields = [['a'], ['b']] ∧
        pair.lookup "%-0".toList = .untyped "a b".toList := by
  decide +kernel

end Environment

end LineFilter
