import LineFilter.Proofs.Number.Words
import LineFilter.Proofs.Script.Spacing
import LineFilter.Proofs.Text.Padded

/-!
# Number words that are dates

A word of digits, dashes between digits, a `T` and, behind it, colons between
digits is one number word, wherever it stands between other tokens. It names no
base, so the `T` makes it a date.
-/

namespace LineFilter

open Layout (readFirst? literals)

namespace Token

variable {dated : Bool} {c : Char} {cs rest : Text} {width n : Nat}

/-- A word goes on to the end of the text, behind a `T` or not. -/
def Whole (dated : Bool) (text : Text) : Prop := splitNumber dated text = (text, [])

@[simp] theorem whole_nil : Whole dated [] := rfl

theorem whole_cons (h : continuesNumber dated c cs) :
    Whole dated (c :: cs) ↔ Whole (dated || c = 'T') cs := by
  simp [Whole, splitNumber, h, Prod.ext_iff]

theorem whole_digit (h : Text.isDigit c) : Whole dated (c :: cs) ↔ Whole dated cs := by
  have hT : c ≠ 'T' := by
    rintro rfl
    exact absurd h (by decide)
  rw [whole_cons (continuesNumber_of_isDigit dated h cs)]
  simp [hT]

theorem whole_digits {digits : Text} (h : ∀ d ∈ digits, Text.isDigit d) :
    Whole dated (digits ++ rest) ↔ Whole dated rest := by
  induction digits with
  | nil => rfl
  | cons d digits ih =>
    rw [List.cons_append, whole_digit (h d List.mem_cons_self),
      ih fun e he => h e (List.mem_cons_of_mem d he)]

@[simp] theorem whole_padded : Whole dated (Text.padded width n ++ rest) ↔ Whole dated rest :=
  whole_digits fun _ => Text.isDigit_padded

@[simp] theorem whole_padded_end : Whole dated (Text.padded width n) := by
  rw [← List.append_nil (Text.padded width n), whole_padded]
  exact whole_nil

@[simp] theorem whole_T : Whole dated ('T' :: rest) ↔ Whole true rest := by
  rw [whole_cons (by simp [continuesNumber])]
  simp

@[simp] theorem whole_Z : Whole dated ('Z' :: rest) ↔ Whole dated rest := by
  rw [whole_cons (by simp [continuesNumber])]
  simp

@[simp] theorem whole_point : Whole dated ('.' :: rest) ↔ Whole dated rest := by
  rw [whole_cons (by simp [continuesNumber])]
  simp

/-- A dash goes on in front of a digit, and a colon too if there has been a `T`. -/
theorem continuesNumber_padded (hc : c = '-' ∨ c = ':' ∧ dated) :
    continuesNumber dated c (Text.padded width n ++ rest) := by
  obtain ⟨d, ds, hp, hd⟩ := Text.padded_eq_cons width n
  rcases hc with rfl | ⟨rfl, rfl⟩ <;> simp [continuesNumber, hp, hd]

@[simp] theorem whole_dash :
    Whole dated ('-' :: (Text.padded width n ++ rest)) ↔ Whole dated rest := by
  rw [whole_cons (continuesNumber_padded (.inl rfl))]
  simp

@[simp] theorem whole_colon :
    Whole true (':' :: (Text.padded width n ++ rest)) ↔ Whole true rest := by
  rw [whole_cons (continuesNumber_padded (.inr ⟨rfl, rfl⟩))]
  simp

@[simp] theorem whole_colon_end : Whole true (':' :: Text.padded width n) := by
  rw [← List.append_nil (Text.padded width n), whole_colon]
  exact whole_nil

theorem isNumberWord_of_whole (hc : Text.isDigit c) (h : Whole false (c :: cs)) :
    IsNumberWord (c :: cs) := by
  have hcs : splitNumber false cs = (cs, []) := (whole_digit hc).mp h
  have hword := isNumberWord_of_splitNumber (show beginsNumber (c :: cs) by
    simp [beginsNumber_cons, hc])
  rwa [hcs] at hword

end Token

open Lexeme (source Spaced)

/-- Wherever it stands between tokens the word is one number token, and if it
reads as a date it is the literal of that date. -/
structure IsDateWord (clock : Clock) (word : Text) : Prop where
  lexes : ∀ (before after : List Lexeme) (gap last : Text), Spaced before → IsGap gap →
    (before ≠ [] → gap ≠ []) → (∀ lexeme ∈ after, lexeme.gap ≠ []) → IsLastGap last →
      tokenize (source before (gap ++ (word ++ source after last))) =
        .ok (before.map Lexeme.token ++ .number word :: after.map Lexeme.token)
  operand : ∀ i, readFirst? literals clock word = some i →
    ∀ place rest next, TokenStream.ready rest = .ok next →
      Expr.readOperand clock (.cons (.number word) place rest) =
        .ok (.value (.instant word i), next)

theorem spaced_append {before after : List Lexeme} {lexeme : Lexeme} (hb : Spaced before)
    (hl : before ≠ [] → lexeme.gap ≠ []) (ha : ∀ l ∈ after, l.gap ≠ []) :
    Spaced (before ++ lexeme :: after) := by
  cases before with
  | nil => exact ha
  | cons first before =>
    intro l hmem
    simp only [List.cons_append, List.tail_cons, List.mem_append, List.mem_cons] at hmem
    rcases hmem with hmem | rfl | hmem
    · exact hb l hmem
    · exact hl (List.cons_ne_nil _ _)
    · exact ha l hmem

namespace Value

variable {clock : Clock} {rest : Text} {width n : Nat}

/-- Two digits in front name no base. -/
theorem ofNumber_padded (hw : 2 ≤ width) (hT : 'T' ∈ rest) :
    ofNumber clock (Text.padded width n ++ rest) = ofDate clock (Text.padded width n ++ rest) := by
  obtain ⟨d, e, ds, hp, hd, he⟩ := Text.padded_eq_cons_cons hw n
  have hmagnitude : magnitude (Text.padded width n ++ rest) = Text.padded width n ++ rest := by
    rw [hp]
    unfold magnitude
    split
    · rename_i hminus
      cases hminus
      exact absurd hd (by decide)
    · rfl
  have hbase : ¬ namesBase (Text.padded width n ++ rest) := by
    rw [hp]
    unfold namesBase
    split
    · rename_i hzero
      cases hzero
      intro hletter
      rcases (by simpa using hletter : _ ∨ _) with rfl | rfl | rfl | rfl | rfl | rfl <;>
        exact absurd he (by decide)
    · simp
  rw [ofNumber_eq, hmagnitude, if_neg hbase, if_pos (by simp [hT])]

end Value

theorem isDateWord_padded (clock : Clock) {rest : Text} {width : Nat} (hw : 2 ≤ width) (n : Nat)
    (h : Token.Whole false rest) (hT : 'T' ∈ rest) :
    IsDateWord clock (Text.padded width n ++ rest) := by
  have hword : Token.IsNumberWord (Text.padded width n ++ rest) := by
    obtain ⟨d, ds, hp, hd⟩ := Text.padded_eq_cons width n
    have hwhole : Token.Whole false (Text.padded width n ++ rest) := Token.whole_padded.mpr h
    rw [hp] at hwhole ⊢
    exact Token.isNumberWord_of_whole hd hwhole
  constructor
  · intro before after gap last hbefore hgap hsep hafter hlast
    let lexeme : Lexeme := ⟨gap, _, _, hgap, .number hword⟩
    have hspaced : Spaced (before ++ lexeme :: after) := spaced_append hbefore hsep hafter
    simpa [source, lexeme, Lexeme.text] using Lexeme.tokenize_source hspaced hlast
  · intro i hi place rest' next hnext
    simp [Expr.readOperand, Expr.readLiteral, hnext, Value.ofNumber_padded hw hT, Value.ofDate, hi,
      bind, Except.bind]

end LineFilter
