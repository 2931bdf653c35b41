import LineFilter.Proofs.Script.Form
import LineFilter.Token.Stream

/-!
# Lexemes

The text that a token is written as. Put in front of another text, it is read
as that token and no more if the text does not carry the token on. A pattern is
written as it is meant, so this holds only of patterns without a slash.
-/

namespace LineFilter.Token

/-- A token as a script shows it. -/
def written : Token → Text
  | .column word | .identifier word | .number word => word
  | .string raw _ => raw
  | .regex pattern => '/' :: pattern ++ ['/']
  | .operator op => op.symbol
  | .mark m => [m.symbol]

/-- A reader finds a token, and no more, where it is written. -/
def ReadBy (reader : Char → Text → Except LexFault Scanned) (c : Char) (token : Token) : Prop :=
  ∃ cs, token.written = c :: cs ∧
    ∀ rest, token.endsBefore rest → reader c (cs ++ rest) = .ok ⟨token, token.written, rest⟩

/-- Patterns are written as they are meant, so one with a slash would end there. -/
def Plain (token : Token) : Prop := ∀ p, token = .regex p → '/' ∉ p

theorem plain_of_ne {token : Token} (h : ∀ p, token ≠ .regex p) : token.Plain :=
  fun p hp => absurd hp (h p)

theorem plain_identifier (name : Text) : (identifier name).Plain :=
  plain_of_ne fun _ h => Token.noConfusion h

/-- A token that is read where it is written, with no gap in its place. -/
def Prints (token : Token) : Prop := ∃ c, c ≠ '#' ∧ isBlank c = false ∧ ReadBy scan c token

variable {c : Char} {cs spelling : Text} {token : Token} {s : Scanned}

-- ---------------------------------------------------------------------------
-- Spelled tokens
-- ---------------------------------------------------------------------------

/-- Only a pattern with a slash is spelled otherwise than it is written. -/
theorem SpelledBy.eq_written (h : token.SpelledBy spelling) (hp : token.Plain) :
    spelling = token.written := by
  cases h with
  | regex hbody => rw [hbody.eq_of_slashless (hp _ rfl)]; rfl
  | _ => rfl

theorem prints_of_spelledBy (h : token.SpelledBy token.written) : token.Prints := by
  obtain ⟨c, cs, hw, hc, hb, hr⟩ := h.reads
  exact ⟨c, hc, hb, cs, hw, hr⟩

/-- A token that was read is printed as it was read, or is a pattern with a
slash. -/
theorem prints_of_scan (h : scan c cs = .ok s) (hp : s.token.Plain) : s.token.Prints := by
  have hs := spelledBy_of_scan h
  rw [hs.eq_written hp] at hs
  exact prints_of_spelledBy hs

-- ---------------------------------------------------------------------------
-- Tokens that print
-- ---------------------------------------------------------------------------

theorem prints_mark (m : Mark) : (mark m).Prints := prints_of_spelledBy (.mark m)

theorem prints_operator (op : Operator) : (operator op).Prints := prints_of_spelledBy (.operator op)

theorem prints_wholeLine : (column "%0".toList).Prints :=
  prints_of_spelledBy (.column (.fromLeft (List.all_eq_true.mp rfl)))

theorem prints_println : (identifier "println".toList).Prints :=
  prints_of_spelledBy (.identifier (by decide) (List.all_eq_true.mp (by decide)))

theorem splitNumber_digits (h : ∀ d ∈ cs, Text.isDigit d) (dated : Bool) :
    splitNumber dated cs = (cs, []) := by
  induction cs generalizing dated with
  | nil => rfl
  | cons d cs ih =>
    have hd := continuesNumber_of_isDigit dated (h d List.mem_cons_self) cs
    rw [splitNumber, if_pos hd, ih fun e he => h e (List.mem_cons_of_mem d he)]

theorem prints_number (hd : ∀ d ∈ cs, Text.isDigit d) (h : beginsNumber (c :: cs)) :
    (number (c :: cs)).Prints := by
  have hword := isNumberWord_of_splitNumber h
  rw [splitNumber_digits hd] at hword
  exact prints_of_spelledBy (.number hword)

/-- A printed integer has no `T` in it, so no colon carries it on. -/
theorem contains_T_ofInt (n : Int) : (Text.ofInt n).contains 'T' = false := by
  have hT : ∀ n, 'T' ∉ Text.ofNat n := by
    intro n hmem
    obtain ⟨d, ds, hds, hall⟩ := Text.exists_ofNat n
    exact absurd (hall 'T' (hds ▸ hmem)) (by decide)
  cases n with
  | ofNat n => simpa [Text.ofInt] using hT n
  | negSucc n => simpa [Text.ofInt] using hT (n + 1)

theorem prints_ofInt (n : Int) : (number (Text.ofInt n)).Prints := by
  cases n with
  | ofNat n =>
    obtain ⟨d, ds, hds, hall⟩ := Text.exists_ofNat n
    have hb : beginsNumber (d :: ds) := by
      simp [beginsNumber_cons, hall d List.mem_cons_self]
    rw [Text.ofInt, hds]
    exact prints_number (fun c hc => hall c (List.mem_cons_of_mem d hc)) hb
  | negSucc n =>
    obtain ⟨d, ds, hds, hall⟩ := Text.exists_ofNat (n + 1)
    have hb : beginsNumber ('-' :: d :: ds) := by
      simp [beginsNumber_cons, hall d List.mem_cons_self]
    rw [Text.ofInt, hds]
    exact prints_number hall hb

end LineFilter.Token
