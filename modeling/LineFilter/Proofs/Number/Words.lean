import LineFilter.Expr.Reader
import LineFilter.Proofs.Number.Grammar
import LineFilter.Proofs.Script.Spacing
import LineFilter.Value.Order

/-!
# Integers in number words

A number word stands for an operand, for the bound of a slice, or for the text
of a column. As an operand it is first sorted by how it looks and only then
read, and most words that are integers look like one. Those that do not have
separators between the zero and the letter of base sixteen: a digit `e` looks
like the mark of an exponent there, and the operand is refused as a decimal. All
other integers mean the same number in all three places.
-/

namespace LineFilter

theorem Digits.worthIn?_mono {base base' : Nat} {c : Char} (hle : base ≤ base')
    (h : worthIn? base c ≠ none) : worthIn? base' c ≠ none := by
  obtain ⟨d, hd⟩ := Option.ne_none_iff_exists'.mp h
  obtain ⟨hworth, hlt⟩ := Option.filter_eq_some_iff.mp hd
  have hlt' : decide (d < base') := by
    simp only [decide_eq_true_eq] at hlt ⊢
    exact Nat.lt_of_lt_of_le hlt hle
  rw [worthIn?, hworth, Option.filter_some, if_pos hlt']
  exact Option.some_ne_none d

namespace IntegerLiteral

open DecimalLiteral (marksExponent)

/-- A word in base sixteen whose letter stands behind separators, with a digit
that looks like the mark of an exponent. -/
inductive HidesBase : Text → Prop
  | literal {sign separators x digits} : sign ∈ [[], ['-']] → separators ≠ [] →
      (∀ c ∈ separators, c = '_') → x ∈ ['x', 'X'] → digits.any marksExponent →
      HidesBase (sign ++ '0' :: (separators ++ x :: digits))

variable {text word digits : Text} {n : Int} {c x : Char}

-- ---------------------------------------------------------------------------
-- Characters of integers
-- ---------------------------------------------------------------------------

/-- An integer has signs, the letters of bases and the digits of base sixteen. -/
theorem Denotes.characters (h : Denotes text n) :
    ∀ c ∈ text, c ∈ ['+', '-', 'x', 'X', 'o', 'O'] ∨ Digits.worthIn? 16 c ≠ none := by
  obtain ⟨hsign, hmark, -, hdigits⟩ := h
  intro c hc
  simp only [List.mem_append] at hc
  rcases hc with hc | hc | hc
  · cases hsign <;> simp_all
  · have hmarks : ∀ b ∈ bases, b.1.all fun c =>
        c ∈ ['+', '-', 'x', 'X', 'o', 'O'] ∨ Digits.worthIn? 16 c ≠ none := by
      decide
    exact of_decide_eq_true (List.all_eq_true.mp (hmarks _ hmark) c hc)
  · have h16 := (bounds_of_mem_bases hmark).2
    exact .inr (Digits.worthIn?_mono h16 (Digits.worthIn?_of_forall₂ h16 hdigits hc))

theorem not_mem_of_read? (h : read? word = some n) (hne : c ≠ '_')
    (hc : c ∉ ['+', '-', 'x', 'X', 'o', 'O']) (hworth : Digits.worthIn? 16 c = none) :
    c ∉ word := by
  intro hmem
  have hcleaned : c ∈ withoutSeparators word := List.mem_filter.mpr ⟨hmem, decide_eq_true hne⟩
  rcases (read?_iff.mp h).1.characters c hcleaned with hmark | hdigit
  · exact hc hmark
  · exact hdigit hworth

/-- Only base sixteen has a digit that looks like the mark of an exponent. -/
theorem Denotes.sixteen (h : Denotes text n) (hc : c ∈ text) (he : marksExponent c) :
    ∃ sign x digits unit, IsSign sign unit ∧ x ∈ ['x', 'X'] ∧
      text = sign ++ '0' :: x :: digits ∧ c ∈ digits := by
  obtain ⟨hsign, hmark, -, hdigits⟩ := h
  have hbases : ∀ b ∈ bases, b.1.all (!marksExponent ·) ∧
      (b.2 ≤ 10 ∨ b.1 = ['0', 'x'] ∨ b.1 = ['0', 'X']) := by
    decide
  obtain ⟨hplain, hbase⟩ := hbases _ hmark
  simp only [List.mem_append] at hc
  rcases hc with hc | hc | hc
  · cases hsign <;> simp only [List.mem_singleton, List.not_mem_nil] at hc <;> subst hc <;>
      exact absurd he (by decide)
  · have hcs := List.all_eq_true.mp hplain c hc
    rw [he] at hcs
    cases hcs
  · rcases hbase with hten | rfl | rfl
    · have hworth := Digits.worthIn?_of_forall₂ (bounds_of_mem_bases hmark).2 hdigits hc
      have := DecimalLiteral.not_marksExponent (Digits.worthIn?_mono hten hworth)
      simp [he] at this
    · exact ⟨_, 'x', _, _, hsign, by simp, rfl, hc⟩
    · exact ⟨_, 'X', _, _, hsign, by simp, rfl, hc⟩

-- ---------------------------------------------------------------------------
-- Hidden bases
-- ---------------------------------------------------------------------------

theorem withoutSeparators_hidden {separators : Text} (hs : ∀ c ∈ separators, c = '_')
    (hx : x ∈ ['x', 'X']) (digits : Text) :
    withoutSeparators ('0' :: (separators ++ x :: digits)) =
      '0' :: x :: withoutSeparators digits := by
  have hx' : x ≠ '_' := by
    rintro rfl
    simp at hx
  simpa [withoutSeparators, hx'] using hs

theorem withoutSeparators_digit (h : Text.isDigit c) (cs : Text) :
    withoutSeparators (c :: cs) = c :: withoutSeparators cs := by
  refine List.filter_cons_of_pos (decide_eq_true ?_)
  rintro rfl
  exact absurd h (by decide)

/-- The letter that is next to the zero without separators is next to it with
them, or is hidden. -/
theorem namesBase_or_hidden (hx : x ∈ ['x', 'X']) (hc : c ∈ digits) (he : marksExponent c)
    (word : Text) (h : withoutSeparators word = x :: digits) :
    Value.namesBase ('0' :: word) ∨ HidesBase ('0' :: word) ∧ HidesBase ('-' :: '0' :: word) := by
  obtain ⟨separators, rest, rfl, hs, -, rfl⟩ := List.filter_eq_cons_iff.mp h
  cases separators with
  | nil =>
    simp only [List.mem_cons, List.not_mem_nil, or_false] at hx
    rcases hx with rfl | rfl <;> exact .inl rfl
  | cons s separators =>
    have hs : ∀ c ∈ s :: separators, c = '_' := by simpa using hs
    have hrest : rest.any marksExponent := List.any_eq_true.mpr ⟨c, List.mem_of_mem_filter hc, he⟩
    refine .inr ⟨?_, ?_⟩
    · exact .literal List.mem_cons_self (List.cons_ne_nil s separators) hs hx hrest
    · exact .literal (List.mem_cons_of_mem _ List.mem_cons_self) (List.cons_ne_nil s separators) hs
        hx hrest

end IntegerLiteral

namespace DecimalLiteral

open IntegerLiteral (HidesBase splitSign)

theorem nearest_of_letter {sign : Text} {x : Char} (hsign : sign ∈ [[], ['-']])
    (hx : x ∈ ['x', 'X']) (rest : Text) :
    nearest (sign ++ '0' :: x :: rest) = .error .unknownCharacter := by
  obtain ⟨hworth, hpoint, hmark⟩ : Digits.worthIn? 10 x = none ∧ x ≠ '.' ∧ !marksExponent x :=
    letter_of_base (List.mem_append_left ['b', 'B', 'o', 'O'] hx)
  have hplain (rest : Text) : plain (sign ++ '0' :: x :: rest) = .error .unknownCharacter := by
    simp only [List.mem_cons, List.not_mem_nil, or_false] at hsign
    rcases hsign with rfl | rfl <;>
      simp [plain, IntegerLiteral.splitSign, finish_letter hworth hpoint, Except.map]
  have htake : (sign ++ '0' :: x :: rest).takeWhile (!marksExponent ·) =
      sign ++ '0' :: x :: rest.takeWhile (!marksExponent ·) := by
    have hsigned : ∀ c ∈ sign, !marksExponent c :=
      List.all_eq_true.mp
        ((by decide : ∀ sign ∈ [[], ['-']], sign.all (!marksExponent ·)) sign hsign)
    have hzero : !marksExponent '0' := by decide
    rw [List.takeWhile_append_of_pos hsigned]
    simp [hzero, hmark]
  unfold nearest
  split
  · exact hplain rest
  · rw [htake, hplain]
    rfl

theorem read_of_hidesBase {word : Text} (h : HidesBase word) :
    read word = .error .unknownCharacter := by
  obtain ⟨hsign, -, hs, hx, -⟩ := h
  rename_i sign separators x digits
  have hcleaned : IntegerLiteral.withoutSeparators (sign ++ '0' :: (separators ++ x :: digits)) =
      sign ++ '0' :: x :: IntegerLiteral.withoutSeparators digits := by
    rw [← IntegerLiteral.withoutSeparators_hidden hs hx, IntegerLiteral.withoutSeparators,
      List.filter_append]
    refine congrArg (· ++ _) (List.filter_eq_self.mpr ?_)
    exact List.all_eq_true.mp ((by decide : ∀ sign ∈ [[], ['-']], sign.all (· ≠ '_')) sign hsign)
  rw [read, hcleaned, nearest_of_letter hsign hx]
  rfl

end DecimalLiteral

namespace Value

open IntegerLiteral (HidesBase read? withoutSeparators)
open DecimalLiteral (marksExponent)

variable {clock : Clock} {word : Text} {n : Int}

/-- A word without a `-` in front. -/
def magnitude : Text → Text
  | '-' :: cs => cs
  | cs => cs

theorem ofNumber_eq (clock : Clock) (word : Text) :
    ofNumber clock word =
      if namesBase (magnitude word) then ofInteger word
      else if (magnitude word).contains 'T' then ofDate clock word
      else if (magnitude word).any (".eE".toList.contains ·) then ofDecimal word
      else ofInteger word := rfl

theorem mem_of_mem_magnitude {c : Char} (h : c ∈ magnitude word) : c ∈ word := by
  unfold magnitude at h
  split at h
  · exact List.mem_cons_of_mem _ h
  · exact h

/-- How a number word looks that is an integer. -/
theorem looks (h : Token.IsNumberWord word) (hn : read? word = some n) :
    namesBase (magnitude word) ∨ HidesBase word ∨ ∀ c ∈ magnitude word, ¬ marksExponent c := by
  by_cases he : ∃ c ∈ magnitude word, marksExponent c
  · obtain ⟨c, hc, he⟩ := he
    have hcleaned : c ∈ withoutSeparators word := by
      refine List.mem_filter.mpr ⟨mem_of_mem_magnitude hc, decide_eq_true ?_⟩
      rintro rfl
      exact absurd he (by decide)
    obtain ⟨sign, x, digits, unit, hsign, hx, htext, hdigits⟩ :=
      (IntegerLiteral.read?_iff.mp hn).1.sixteen hcleaned he
    have hrest := IntegerLiteral.namesBase_or_hidden hx hdigits he
    -- The word begins with a digit or with `-` and a digit, and so does the literal.
    obtain ⟨d, cs, hd, rfl | rfl⟩ := h.begins
    · rw [IntegerLiteral.withoutSeparators_digit hd] at htext
      cases hsign with
      | none =>
        obtain ⟨rfl, hcs⟩ := List.cons.inj htext
        exact (hrest cs hcs).imp_right fun hhidden => .inl hhidden.1
      | plus =>
        obtain ⟨rfl, -⟩ := List.cons.inj htext
        exact absurd hd (by decide)
      | minus =>
        obtain ⟨rfl, -⟩ := List.cons.inj htext
        exact absurd hd (by decide)
    · have hminus : withoutSeparators ('-' :: d :: cs) = '-' :: d :: withoutSeparators cs := by
        rw [← IntegerLiteral.withoutSeparators_digit hd]
        exact List.filter_cons_of_pos (by decide)
      rw [hminus] at htext
      cases hsign with
      | none => exact absurd (List.cons.inj htext).1 (by decide)
      | plus => exact absurd (List.cons.inj htext).1 (by decide)
      | minus =>
        obtain ⟨rfl, hcs⟩ := List.cons.inj (List.cons.inj htext).2
        exact (hrest cs hcs).imp_right fun hhidden => .inl hhidden.2
  · exact .inr (.inr fun c hc he' => he ⟨c, hc, he'⟩)

theorem looks_of_hidesBase (h : HidesBase word) :
    ¬ namesBase (magnitude word) ∧ (magnitude word).any (".eE".toList.contains ·) := by
  obtain ⟨hsign, hne, hs, -, he⟩ := h
  rename_i sign separators x digits
  have hmagnitude : magnitude (sign ++ '0' :: (separators ++ x :: digits)) =
      '0' :: (separators ++ x :: digits) := by
    simp only [List.mem_cons, List.not_mem_nil, or_false] at hsign
    rcases hsign with rfl | rfl <;> rfl
  rw [hmagnitude]
  constructor
  · obtain ⟨s, separators, rfl⟩ := List.exists_cons_of_ne_nil hne
    obtain rfl := hs s List.mem_cons_self
    exact Bool.false_ne_true
  · obtain ⟨c, hc, he⟩ := List.any_eq_true.mp he
    refine List.any_eq_true.mpr ⟨c, by simp [hc], ?_⟩
    rcases (by simpa [marksExponent] using he : c = 'e' ∨ c = 'E') with rfl | rfl <;> decide

theorem read?_of_ofNumber {raw : Text} (h : ofNumber clock word = .ok (.integer raw n)) :
    raw = word ∧ read? word = some n := by
  have hinteger (h : ofInteger word = .ok (.integer raw n)) : raw = word ∧ read? word = some n := by
    unfold ofInteger at h
    split at h
    · cases h
      exact ⟨rfl, ‹_›⟩
    · cases h
  rw [ofNumber_eq] at h
  split_ifs at h
  · exact hinteger h
  · unfold ofDate at h
    split at h <;> cases h
  · unfold ofDecimal at h
    split at h <;> cases h
  · exact hinteger h

/-- A number word that reads as an integer is that integer as an operand, unless
it hides its base. -/
theorem ofNumber_of_read? (clock : Clock) (h : Token.IsNumberWord word) (hn : read? word = some n) :
    ¬ HidesBase word ∧ ofNumber clock word = .ok (.integer word n) ∨
      HidesBase word ∧ ofNumber clock word = .error (.decimal word .unknownCharacter) := by
  have hT : (magnitude word).contains 'T' = false := by
    have hmem : 'T' ∉ word := IntegerLiteral.not_mem_of_read? hn (by decide) (by decide) (by decide)
    simpa using mt mem_of_mem_magnitude hmem
  have hpoint : '.' ∉ magnitude word := mt mem_of_mem_magnitude
    (IntegerLiteral.not_mem_of_read? hn (by decide) (by decide) (by decide))
  have hinteger : ofInteger word = .ok (.integer word n) := by
    rw [ofInteger, hn]
  rw [ofNumber_eq, hT]
  by_cases hbase : namesBase (magnitude word)
  · rw [if_pos hbase]
    exact .inl ⟨fun hhidden => (looks_of_hidesBase hhidden).1 hbase, hinteger⟩
  · rw [if_neg hbase, if_neg Bool.false_ne_true]
    rcases (looks h hn).resolve_left hbase with hhidden | hplain
    · rw [if_pos (looks_of_hidesBase hhidden).2, ofDecimal,
        DecimalLiteral.read_of_hidesBase hhidden]
      exact .inr ⟨hhidden, rfl⟩
    · have hlooks : ¬ (magnitude word).any (".eE".toList.contains ·) := by
        rw [List.any_eq_true]
        rintro ⟨c, hc, he⟩
        obtain rfl | he : c = '.' ∨ marksExponent c := by simpa [marksExponent] using he
        · exact hpoint hc
        · exact hplain c hc he
      rw [if_neg hlooks]
      exact .inl ⟨fun hhidden => hlooks (looks_of_hidesBase hhidden).2, hinteger⟩

-- ---------------------------------------------------------------------------
-- Number words in three places
-- ---------------------------------------------------------------------------

/-- What a number word means as an operand, as the bound of a slice and as the
text of a column that is compared with an integer. -/
structure MeansInteger (clock : Clock) (word : Text) : Prop where
  operand : ∀ raw n, ofNumber clock word = .ok (.integer raw n) ↔
    raw = word ∧ read? word = some n ∧ ¬ HidesBase word
  hidden : ∀ n, read? word = some n → HidesBase word →
    ofNumber clock word = .error (.decimal word .unknownCharacter)
  bound : ∀ n place rest next,
    Expr.readBound (.cons (.number word) place rest) = .ok (some n, next) →
      HidesBase word ∨ ofNumber clock word = .ok (.integer word n)
  column : ∀ raw m o, order clock (.untyped word) (.integer raw m) = some o →
    ∃ n, o = compare n m ∧ (HidesBase word ∨ ofNumber clock word = .ok (.integer word n))

theorem isNumberWord_of_tokenize (h : tokenize word = .ok [.number word]) :
    Token.IsNumberWord word := by
  obtain ⟨lexemes, last, -, -, hlexemes⟩ := Lexeme.exists_source_of_tokenize h
  obtain ⟨lexeme, -, htoken⟩ : ∃ lexeme, lexeme ∈ lexemes ∧ lexeme.token = .number word := by
    rw [← List.mem_map, hlexemes]
    exact List.mem_cons_self
  have hspelled := lexeme.spelled
  rw [htoken] at hspelled
  cases hspelled with
  | number hword => exact hword

/-- A number word that does not hide its base means one integer, or none,
wherever it stands. -/
theorem ofNumber_meansInteger (clock : Clock) (h : tokenize word = .ok [.number word]) :
    MeansInteger clock word := by
  have hcases {n : Int} (hn : read? word = some n) :=
    ofNumber_of_read? clock (isNumberWord_of_tokenize h) hn
  have hread {n : Int} (hn : read? word = some n) :
      HidesBase word ∨ ofNumber clock word = .ok (.integer word n) :=
    (hcases hn).symm.imp And.left And.right
  refine ⟨?operand, ?hidden, ?bound, ?column⟩
  case operand =>
    intro raw n
    constructor
    · intro hok
      obtain ⟨rfl, hn⟩ := read?_of_ofNumber hok
      rcases hcases hn with ⟨hvisible, -⟩ | ⟨-, herror⟩
      · exact ⟨rfl, hn, hvisible⟩
      · rw [herror] at hok
        cases hok
    · rintro ⟨rfl, hn, hvisible⟩
      exact (hread hn).resolve_left hvisible
  case hidden =>
    intro n hn hhidden
    rcases hcases hn with ⟨hvisible, -⟩ | ⟨-, herror⟩
    · exact absurd hhidden hvisible
    · exact herror
  case bound =>
    intro n place rest next hbound
    simp only [Expr.readBound] at hbound
    split at hbound
    · rename_i m hm
      simp only [bind_eq_ok, pure_eq_ok, Prod.mk.injEq, Option.some.injEq] at hbound
      obtain ⟨-, -, rfl, -⟩ := hbound
      exact hread hm
    · cases hbound
  case column =>
    intro raw m o ho
    have hadopt : ((read? word).map Typed.integer).bind (Typed.order · (.integer m)) = some o := ho
    cases hn : read? word with
    | none => simp [hn] at hadopt
    | some n =>
      obtain rfl : compare n m = o := by simpa [hn, Typed.order] using hadopt
      exact ⟨n, rfl, hread hn⟩

theorem ofNumber_meansInteger_separated :
    tokenize "0x1_e".toList = .ok [.number "0x1_e".toList] ∧
      MeansInteger ⟨0, 0, .utc⟩ "0x1_e".toList ∧ read? "0x1_e".toList = some 30 := by
  have htokens : tokenize "0x1_e".toList = .ok [.number "0x1_e".toList] := by
    decide +kernel
  exact ⟨htokens, ofNumber_meansInteger _ htokens, by decide⟩

/-- With the separator in front of the letter it is the same integer as the bound
of a slice, but no operand. -/
theorem ofNumber_hidden :
    tokenize "0_x1e".toList = .ok [.number "0_x1e".toList] ∧ read? "0_x1e".toList = some 30 ∧
      ofNumber ⟨0, 0, .utc⟩ "0_x1e".toList =
        .error (.decimal "0_x1e".toList .unknownCharacter) := by
  decide +kernel

end Value

end LineFilter
