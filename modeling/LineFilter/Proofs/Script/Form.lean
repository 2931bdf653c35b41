import LineFilter.Proofs.Number.Readers
import LineFilter.Token.Scan

/-!
# Forms of tokens

What each kind of token looks like, said without the reader: a column, a name
and a number word are their own spelling, a string is kept with its quotes, and
a pattern is its spelling with the escaped slashes made plain. A token is read
exactly where such a spelling stands in front of a text that does not carry it
on: a digit carries on a column and `=` a `<`, but nothing a string.
-/

namespace LineFilter.Token

-- ---------------------------------------------------------------------------
-- Forms
-- ---------------------------------------------------------------------------

/-- What stands behind the sigil of a column. -/
inductive IsColumnName : Text → Prop
  | count : IsColumnName ['#']
  | fromLeft {d digits} : (∀ c ∈ d :: digits, Text.isDigit c) → IsColumnName (d :: digits)
  | fromRight {d digits} : (∀ c ∈ d :: digits, Text.isDigit c) →
      IsColumnName ('-' :: d :: digits)

/-- What stands between two quotes, and the text that it means. -/
inductive IsQuoted (quote : Char) : Text → Text → Prop
  | nil : IsQuoted quote [] []
  | plain {c body value} : c ≠ quote → c ≠ '\\' → IsQuoted quote body value →
      IsQuoted quote (c :: body) (c :: value)
  | escape {e d body value} : unescape e = some d → IsQuoted quote body value →
      IsQuoted quote ('\\' :: e :: body) (d :: value)

/-- What stands between two slashes, and the pattern that it means. A backslash
goes with the character behind it; with a slash it means the slash, and with any
other both are the pattern's own. -/
inductive IsSlashed : Text → Text → Prop
  | nil : IsSlashed [] []
  | plain {c body pattern} : c ≠ '/' → c ≠ '\\' → IsSlashed body pattern →
      IsSlashed (c :: body) (c :: pattern)
  | slash {body pattern} : IsSlashed body pattern →
      IsSlashed ('\\' :: '/' :: body) ('/' :: pattern)
  | escape {c body pattern} : c ≠ '/' → IsSlashed body pattern →
      IsSlashed ('\\' :: c :: body) ('\\' :: c :: pattern)

/-- Whether a number word that is `before` goes on with `c` in front of `after`:
with ASCII letters and digits, `_`, `.`, a `-` in front of a digit and, once
there is a `T`, a `:` in front of a digit. -/
def GoesOn (before : Text) (c : Char) (after : Text) : Prop :=
  c.isAlphanum ∨ c = '_' ∨ c = '.' ∨
    (c = '-' ∨ c = ':' ∧ 'T' ∈ before) ∧ ∃ d ∈ after.head?, Text.isDigit d

/-- A word that begins with a digit, or with `-` and a digit, and goes on from
every character to the next. -/
structure IsNumberWord (word : Text) : Prop where
  begins : ∃ d cs, Text.isDigit d ∧ (word = d :: cs ∨ word = '-' :: d :: cs)
  goesOn : ∀ before c after, word = before ++ c :: after → before ≠ [] → GoesOn before c after

/-- A token and a text that spells it. -/
inductive SpelledBy : Token → Text → Prop
  | column {name} : IsColumnName name → SpelledBy (.column ('%' :: name)) ('%' :: name)
  | identifier {c cs} : isLetter c ∨ c = '_' → (∀ d ∈ cs, continuesName d) →
      SpelledBy (.identifier (c :: cs)) (c :: cs)
  | number {word} : IsNumberWord word → SpelledBy (.number word) word
  | string {quote body value} : quote ∈ ['"', '\''] → IsQuoted quote body value →
      SpelledBy (.string (quote :: (body ++ [quote])) value) (quote :: (body ++ [quote]))
  | regex {body pattern} : IsSlashed body pattern →
      SpelledBy (.regex pattern) ('/' :: (body ++ ['/']))
  | operator (op : Operator) : SpelledBy (.operator op) op.symbol
  | mark (m : Mark) : SpelledBy (.mark m) [m.symbol]

/-- Whether a number word ends in front of a text. -/
def endsNumber (dated : Bool) : Text → Bool
  | [] => true
  | c :: cs => !continuesNumber dated c cs

/-- Whether a token ends in front of a text. -/
def endsBefore (rest : Text) : Token → Bool
  | .column _ => !rest.head?.any Text.isDigit
  | .identifier _ => !rest.head?.any continuesName
  | .number word => endsNumber (word.contains 'T') rest
  | .operator .less | .operator .greater | .mark .bang => rest.head? ≠ some '='
  | _ => true

variable {c : Char} {cs body value pattern rest : Text}

-- ---------------------------------------------------------------------------
-- Strings
-- ---------------------------------------------------------------------------

theorem map_eq_ok {ε α β : Type} {f : α → β} {x : Except ε α} {b : β} :
    x.map f = .ok b ↔ ∃ a, x = .ok a ∧ f a = b := by
  cases x <;> simp [Except.map]

theorem isQuoted_of_stringBody {quote : Char} {spelling : Text}
    (h : stringBody quote cs = .ok (value, spelling, rest)) :
    ∃ body, spelling = body ++ [quote] ∧ IsQuoted quote body value := by
  fun_induction stringBody quote cs generalizing value spelling with
  | case1 | case3 | case4 => cases h
  | case2 =>
    cases h
    exact ⟨[], rfl, .nil⟩
  | case5 e cs d hd hq ih =>
    obtain ⟨⟨v, w, r⟩, hb, he⟩ := map_eq_ok.mp h
    cases he
    obtain ⟨body, rfl, hbody⟩ := ih hb
    exact ⟨_, rfl, .escape hd hbody⟩
  | case6 c cs hq hs ih =>
    obtain ⟨⟨v, w, r⟩, hb, he⟩ := map_eq_ok.mp h
    cases he
    obtain ⟨body, rfl, hbody⟩ := ih hb
    exact ⟨_, rfl, .plain hq hs hbody⟩

theorem stringBody_closed (quote : Char) (cs : Text) :
    stringBody quote (quote :: cs) = .ok ([], [quote], cs) := by
  rw [stringBody.eq_def]
  exact if_pos rfl

theorem stringBody_plain {quote : Char} (hc : c ≠ quote) (hs : c ≠ '\\') (cs : Text) :
    stringBody quote (c :: cs) = (stringBody quote cs).map fun (value, spelling, rest) =>
      (c :: value, c :: spelling, rest) := by
  rw [stringBody.eq_def]
  simp only [if_neg hc, if_neg hs]

theorem stringBody_escape {quote e d : Char} (hq : quote ≠ '\\') (he : unescape e = some d)
    (cs : Text) :
    stringBody quote ('\\' :: e :: cs) = (stringBody quote cs).map fun (value, spelling, rest) =>
      (d :: value, '\\' :: e :: spelling, rest) := by
  rw [stringBody.eq_def]
  simp only [if_neg hq.symm, he, if_true]

theorem stringBody_backslash {quote e : Char} (hq : quote ≠ '\\') (he : unescape e = none)
    (cs : Text) : stringBody quote ('\\' :: e :: cs) = .error (.badEscape e) := by
  unfold stringBody
  rw [if_neg hq.symm, if_pos rfl]
  simp only [he]

theorem stringBody_lastBackslash {quote : Char} (hq : quote ≠ '\\') :
    stringBody quote ['\\'] = .error .unterminatedString := by
  unfold stringBody
  rw [if_neg hq.symm, if_pos rfl]

/-- What stands between quotes does not keep the reader from what follows. -/
theorem stringBody_behind {quote : Char} (hq : quote ≠ '\\') (h : IsQuoted quote body value)
    (cs : Text) : stringBody quote (body ++ cs) = (stringBody quote cs).map
      fun (more, spelling, rest) => (value ++ more, body ++ spelling, rest) := by
  induction h with
  | nil =>
    rw [List.nil_append]
    cases stringBody quote cs <;> rfl
  | plain hc hs _ ih =>
    rw [List.cons_append, stringBody_plain hc hs, ih]
    cases stringBody quote cs <;> rfl
  | escape he _ ih =>
    rw [List.cons_append, List.cons_append, stringBody_escape hq he, ih]
    cases stringBody quote cs <;> rfl

theorem stringBody_of_isQuoted {quote : Char} (hq : quote ≠ '\\')
    (h : IsQuoted quote body value) (rest : Text) :
    stringBody quote (body ++ quote :: rest) = .ok (value, body ++ [quote], rest) := by
  rw [stringBody_behind hq h, stringBody_closed]
  simp [Except.map]

-- ---------------------------------------------------------------------------
-- Patterns
-- ---------------------------------------------------------------------------

theorem isSlashed_of_regexBody {spelling : Text}
    (h : regexBody cs = some (pattern, spelling, rest)) :
    ∃ body, spelling = body ++ ['/'] ∧ IsSlashed body pattern := by
  fun_induction regexBody cs generalizing pattern spelling with
  | case1 => cases h
  | case2 =>
    cases h
    exact ⟨[], rfl, .nil⟩
  | case3 cs ih =>
    obtain ⟨⟨p, w, r⟩, hb, he⟩ := Option.map_eq_some_iff.mp h
    cases he
    obtain ⟨body, rfl, hbody⟩ := ih hb
    exact ⟨_, rfl, .slash hbody⟩
  | case4 c cs hc ih =>
    obtain ⟨⟨p, w, r⟩, hb, he⟩ := Option.map_eq_some_iff.mp h
    cases he
    obtain ⟨body, rfl, hbody⟩ := ih hb
    exact ⟨_, rfl, .escape hc hbody⟩
  | case5 c cs hslash _ hlast ih =>
    obtain ⟨⟨p, w, r⟩, hb, he⟩ := Option.map_eq_some_iff.mp h
    cases he
    -- A backslash at the very end would leave the pattern open.
    have hc : c ≠ '\\' := by
      rintro rfl
      cases cs with
      | nil => cases hb
      | cons d ds => exact hlast d ds rfl rfl
    obtain ⟨body, rfl, hbody⟩ := ih hb
    exact ⟨_, rfl, .plain hslash hc hbody⟩

theorem regexBody_plain (hslash : c ≠ '/') (hc : c ≠ '\\') (cs : Text) :
    regexBody (c :: cs) = (regexBody cs).map fun (pattern, spelling, rest) =>
      (c :: pattern, c :: spelling, rest) := by
  rw [regexBody]
  · exact hslash
  · exact fun _ h => absurd h hc
  · exact fun _ _ h => absurd h hc

theorem regexBody_of_isSlashed (h : IsSlashed body pattern) (rest : Text) :
    regexBody (body ++ '/' :: rest) = some (pattern, body ++ ['/'], rest) := by
  induction h with
  | nil => rfl
  | plain hslash hc _ ih =>
    rw [List.cons_append, regexBody_plain hslash hc, ih]
    rfl
  | slash _ ih => simp [regexBody, ih]
  | escape hc _ ih =>
    simp only [List.cons_append]
    rw [regexBody, ih]
    · rfl
    · exact hc

/-- A pattern without a slash is written as it is meant. -/
theorem IsSlashed.eq_of_slashless (h : IsSlashed body pattern) (hp : '/' ∉ pattern) :
    body = pattern := by
  induction h with
  | nil => rfl
  | plain _ _ _ ih => simp_all
  | slash => simp at hp
  | escape _ _ ih => simp_all

-- ---------------------------------------------------------------------------
-- Columns
-- ---------------------------------------------------------------------------

theorem isColumnName_of_columnBody {name : Text} (h : columnBody cs = some (name, rest)) :
    IsColumnName name := by
  unfold columnBody at h
  split at h
  · cases h
    exact .count
  · split at h
    rename_i sign digits hs
    split at h
    · cases h
    · rename_i _ hd
      cases h
      have hall : ∀ c ∈ digits.takeWhile Text.isDigit, Text.isDigit c :=
        fun _ => List.mem_takeWhile_imp
      obtain ⟨d, ds, hds⟩ := List.exists_cons_of_ne_nil hd
      rw [hds] at hall ⊢
      split at hs <;> cases hs
      · exact .fromRight hall
      · exact .fromLeft hall

theorem columnBody_before {name : Text} (h : IsColumnName name)
    (hr : !rest.head?.any Text.isDigit) : columnBody (name ++ rest) = some (name, rest) := by
  cases h with
  | count => rfl
  | @fromLeft d digits hall =>
    obtain ⟨ht, hd⟩ := Text.span_append hall hr
    have hsign : d ≠ '#' ∧ d ≠ '-' := by
      constructor <;> rintro rfl <;> exact absurd (hall _ List.mem_cons_self) (by decide)
    unfold columnBody
    split
    · rename_i heq
      exact absurd (List.cons.inj heq).1 hsign.1
    · split
      rename_i heq
      split at heq
      · rename_i hm
        exact absurd (List.cons.inj hm).1 hsign.2
      · cases heq
        rw [ht, hd]
        rfl
  | @fromRight d digits hall =>
    obtain ⟨ht, hd⟩ := Text.span_append hall hr
    simp only [List.cons_append] at ht hd ⊢
    simp [columnBody, ht, hd]

-- ---------------------------------------------------------------------------
-- Number words
-- ---------------------------------------------------------------------------

theorem isAlphanum_of_isDigit (h : Text.isDigit c) : c.isAlphanum := by
  rw [Text.isDigit_eq] at h
  simp [Char.isAlphanum, h]

theorem continuesNumber_iff {before after : Text} :
    continuesNumber (before.contains 'T') c after ↔ GoesOn before c after := by
  simp [continuesNumber, GoesOn, Option.any_eq_true, or_assoc]

theorem continuesNumber_of_isDigit (dated : Bool) (h : Text.isDigit c) (cs : Text) :
    continuesNumber dated c cs := by
  simp [continuesNumber, isAlphanum_of_isDigit h]

theorem head?_splitNumber (dated : Bool) (h : cs.head?.any Text.isDigit) :
    (splitNumber dated cs).1.head?.any Text.isDigit := by
  cases cs with
  | nil => simp at h
  | cons c cs =>
    have hc : Text.isDigit c := by simpa using h
    rw [splitNumber, if_pos (continuesNumber_of_isDigit dated hc cs)]
    exact h

/-- Whether a number word goes on at a character depends on what follows it only
by whether that is a digit. -/
theorem continuesNumber_of_head {dated : Bool} {cs' : Text} (h : continuesNumber dated c cs)
    (hd : cs.head?.any Text.isDigit → cs'.head?.any Text.isDigit) :
    continuesNumber dated c cs' := by
  simp only [continuesNumber, Bool.or_eq_true, Bool.and_eq_true] at h ⊢
  exact h.imp id (And.imp id hd)

theorem dated_cons {dated : Bool} {before : Text} :
    (dated || (c :: before).contains 'T') = (dated || c = 'T' || before.contains 'T') := by
  rw [List.contains_cons, Bool.beq_eq_decide_eq, Bool.or_assoc]
  simp only [eq_comm]

/-- The induction is on the word with `dated` general: it is what the characters
read so far leave behind. -/
theorem goesOn_of_splitNumber {dated : Bool} {before after : Text}
    (h : (splitNumber dated cs).1 = before ++ c :: after) :
    continuesNumber (dated || before.contains 'T') c after := by
  induction cs generalizing dated before with
  | nil => simp [splitNumber] at h
  | cons x xs ih =>
    rw [splitNumber] at h
    split at h
    · rename_i hx
      cases before with
      | nil =>
        obtain ⟨rfl, rfl⟩ := List.cons.inj h
        simpa using continuesNumber_of_head hx (head?_splitNumber _)
      | cons y before =>
        obtain ⟨rfl, htail⟩ := List.cons.inj h
        rw [dated_cons]
        exact ih htail
    · simp at h

theorem splitNumber_of_goesOn {dated : Bool} {word rest : Text}
    (h : ∀ before c after, word = before ++ c :: after →
      continuesNumber (dated || before.contains 'T') c after)
    (hr : endsNumber (dated || word.contains 'T') rest) :
    splitNumber dated (word ++ rest) = (word, rest) := by
  induction word generalizing dated with
  | nil =>
    cases rest with
    | nil => rfl
    | cons c cs => simpa [splitNumber, endsNumber] using hr
  | cons c word ih =>
    have hc : continuesNumber dated c word := by simpa using h [] c word rfl
    have hc' : continuesNumber dated c (word ++ rest) := by
      refine continuesNumber_of_head hc fun hd => ?_
      cases word <;> simp_all
    rw [dated_cons] at hr
    rw [List.cons_append, splitNumber, if_pos hc', ih _ hr]
    intro before x after hw
    rw [← dated_cons]
    exact h (c :: before) x after (by rw [hw]; rfl)

theorem beginsNumber_cons :
    beginsNumber (c :: cs) = (Text.isDigit c || c = '-' && cs.head?.any Text.isDigit) := by
  have hminus : Text.isDigit '-' = false := by decide
  by_cases hc : c = '-'
  · subst hc
    cases cs <;> simp [beginsNumber, hminus]
  · simp [beginsNumber, hc]

theorem ne_T_of_beginsNumber (h : beginsNumber (c :: cs)) : ('T' == c) = false := by
  rw [beginsNumber_cons] at h
  rw [beq_eq_false_iff_ne]
  rintro rfl
  have hT : Text.isDigit 'T' = false := by decide
  simp [hT] at h

theorem isNumberWord_of_splitNumber (h : beginsNumber (c :: cs)) :
    IsNumberWord (c :: (splitNumber false cs).1) := by
  have hT := ne_T_of_beginsNumber h
  constructor
  · simp only [beginsNumber_cons, Bool.or_eq_true, Bool.and_eq_true, decide_eq_true_eq] at h
    rcases h with hd | ⟨rfl, hd⟩
    · exact ⟨c, _, hd, .inl rfl⟩
    · obtain ⟨d, hhead, hd⟩ := (Option.any_eq_true _ _).mp (head?_splitNumber false hd)
      obtain ⟨ds, hds⟩ := List.head?_eq_some_iff.mp hhead
      exact ⟨d, ds, hd, .inr (by rw [hds])⟩
  · intro before x after hw hne
    cases before with
    | nil => exact absurd rfl hne
    | cons y before =>
      obtain ⟨rfl, htail⟩ := List.cons.inj hw
      rw [← continuesNumber_iff, List.contains_cons, hT]
      exact goesOn_of_splitNumber htail

theorem splitNumber_of_isNumberWord (h : IsNumberWord (c :: cs))
    (hr : endsBefore rest (.number (c :: cs))) :
    beginsNumber (c :: (cs ++ rest)) ∧ splitNumber false (cs ++ rest) = (cs, rest) := by
  have hb : beginsNumber (c :: (cs ++ rest)) := by
    obtain ⟨d, ds, hd, hw | hw⟩ := h.begins <;> obtain ⟨rfl, rfl⟩ := List.cons.inj hw <;>
      simp [beginsNumber_cons, hd]
  have hT := ne_T_of_beginsNumber hb
  refine ⟨hb, splitNumber_of_goesOn ?_ ?_⟩
  · intro before x after hw
    have hgoes := h.goesOn (c :: before) x after (by rw [hw]; rfl) (by simp)
    rwa [← continuesNumber_iff, List.contains_cons, hT] at hgoes
  · rwa [endsBefore, List.contains_cons, hT] at hr

-- ---------------------------------------------------------------------------
-- Ends
-- ---------------------------------------------------------------------------

/-- A character that carries no token on. -/
def EndsAll (c : Char) : Prop :=
  Text.isDigit c = false ∧ continuesName c = false ∧ c.isAlphanum = false ∧ c ≠ '_' ∧ c ≠ '.' ∧
    c ≠ '-' ∧ c ≠ ':' ∧ c ≠ '='

theorem endsBefore_of_endsAll (h : EndsAll c) (rest : Text) (token : Token) :
    token.endsBefore (c :: rest) := by
  obtain ⟨hdigit, hname, hword⟩ := h
  cases token with
  | column => simp [endsBefore, hdigit]
  | identifier => simp [endsBefore, hname]
  | number => simp [endsBefore, endsNumber, continuesNumber, hword]
  | operator op => cases op <;> simp [endsBefore, hword]
  | mark m => cases m <;> simp [endsBefore, hword]
  | string | regex => rfl

theorem endsBefore_nil (token : Token) : token.endsBefore [] := by
  cases token with
  | operator op => cases op <;> rfl
  | mark m => cases m <;> rfl
  | _ => rfl

/-- The letters and digits that a name or a number word goes on with. -/
def wordCharacters : CodeRanges := [(0x30, 0x39), (0x41, 0x5a), (0x61, 0x7a)]

theorem has_wordCharacters (h : c.isAlphanum) : wordCharacters.has c.toNat := by
  have hranges : (decide (65 ≤ c.val ∧ c.val ≤ 90) || (97 ≤ c.val && c.val ≤ 122)) ||
      (48 ≤ c.val && c.val ≤ 57) := h
  simp only [Bool.or_eq_true, Bool.and_eq_true, decide_eq_true_eq, UInt32.le_iff_toNat_le]
    at hranges
  simp [wordCharacters, CodeRanges.has] at hranges ⊢
  omega

/-- Nothing goes on behind white space or at a comment. -/
theorem endsAll_of_gap (h : isBlank c ∨ c = '#') : EndsAll c := by
  rcases h with h | rfl
  · have hne {d : Char} (hd : isBlank d = false) : c ≠ d := by
      rintro rfl
      simp [h] at hd
    have hletter : isLetter c = false :=
      CodeRanges.not_has_of_apart (by decide +kernel : whiteSpace.apart alphabetic) h
    have hnumeral : numeral.has c.toNat = false :=
      CodeRanges.not_has_of_apart (by decide +kernel : whiteSpace.apart numeral) h
    have hword : wordCharacters.has c.toNat = false :=
      CodeRanges.not_has_of_apart (by decide : whiteSpace.apart wordCharacters) h
    have halphanum : c.isAlphanum = false := by
      by_contra hc
      simp [has_wordCharacters (by simpa using hc)] at hword
    have hdigit : Text.isDigit c = false := by
      by_contra hc
      simp [isAlphanum_of_isDigit (by simpa using hc)] at halphanum
    have hscore : c ≠ '_' := hne (by decide)
    exact ⟨hdigit, by simp [continuesName, isAlphanumeric, hletter, hnumeral, hscore], halphanum,
      hscore, hne (by decide), hne (by decide), hne (by decide), hne (by decide)⟩
  · unfold EndsAll
    decide

-- ---------------------------------------------------------------------------
-- The reader and the forms
-- ---------------------------------------------------------------------------

theorem scan_of_beginsNumber (h : beginsNumber (c :: cs)) : scan c cs = scanWord c cs := by
  unfold scan
  split <;> first | rfl | (rw [beginsNumber_cons] at h; exact absurd h (by simp; decide))

theorem scan_of_letter (h : isLetter c ∨ c = '_') : scan c cs = scanWord c cs := by
  unfold scan
  split <;> first | rfl | exact absurd h (by decide)

theorem not_beginsNumber_of_letter (h : isLetter c ∨ c = '_') : ¬ beginsNumber (c :: cs) := by
  have hdigit : Text.isDigit c = false := by
    cases hd : Text.isDigit c with
    | false => rfl
    | true =>
      have hcode := Text.toNat_of_isDigit hd
      rcases h with h | rfl
      · have hapart : alphabetic.apart [(48, 57)] := by decide +kernel
        have := CodeRanges.not_has_of_apart hapart h
        simp [CodeRanges.has, hcode] at this
      · exact absurd hd (by decide)
  have hminus : c ≠ '-' := by
    rintro rfl
    exact absurd h (by decide)
  simp [beginsNumber_cons, hdigit, hminus]

/-- A token has the form of its kind. -/
theorem spelledBy_of_scan {s : Scanned} (h : scan c cs = .ok s) :
    s.token.SpelledBy s.spelling := by
  have hstring {quote : Char} (hq : quote ∈ ['"', '\'']) (h : scanString quote cs = .ok s) :
      s.token.SpelledBy s.spelling := by
    obtain ⟨⟨value, spelling, rest⟩, hb, rfl⟩ := map_eq_ok.mp h
    obtain ⟨body, rfl, hbody⟩ := isQuoted_of_stringBody hb
    exact .string hq hbody
  unfold scan at h
  split at h
  case h_1 =>
    unfold scanColumn at h
    split at h
    · cases h
    · rename_i hb
      cases h
      exact .column (isColumnName_of_columnBody hb)
  case h_2 => exact hstring (by simp) h
  case h_3 => exact hstring (by simp) h
  case h_4 =>
    unfold scanRegex at h
    split at h
    · cases h
    · rename_i hb
      cases h
      obtain ⟨body, rfl, hbody⟩ := isSlashed_of_regexBody hb
      exact .regex hbody
  case h_8 =>
    unfold scanEquals at h
    split at h
    · cases h
      exact .operator .equal
    · cases h
  case h_18 =>
    unfold scanWord at h
    split at h
    · rename_i hn
      cases h
      exact .number (isNumberWord_of_splitNumber hn)
    · split at h
      · rename_i hl
        cases h
        exact .identifier (by simpa using hl) fun _ => List.mem_takeWhile_imp
      · cases h
  case h_5 | h_6 | h_7 =>
    -- `<`, `>` and `!`, which an `=` joins.
    cases h
    unfold withEquals
    split <;> first
      | exact .operator .lessEqual | exact .operator .greaterEqual | exact .operator .notEqual
      | exact .operator .less | exact .operator .greater | exact .mark .bang
  all_goals cases h
  case h_9 => exact .mark .openParen
  case h_10 => exact .mark .closeParen
  case h_11 => exact .mark .openBrace
  case h_12 => exact .mark .closeBrace
  case h_13 => exact .mark .openBracket
  case h_14 => exact .mark .closeBracket
  case h_15 => exact .mark .comma
  case h_16 => exact .mark .colon
  case h_17 => exact .mark .semicolon

theorem withEquals_alone {alone joined : Token} (h : rest.head? ≠ some '=') :
    withEquals alone joined c rest = ⟨alone, [c], rest⟩ := by
  unfold withEquals
  split
  · exact absurd rfl h
  · rfl

/-- A spelling begins where no gap goes on, and is read as its token in front of
every text that does not carry the token on. -/
theorem SpelledBy.reads {token : Token} {spelling : Text} (h : token.SpelledBy spelling) :
    ∃ c cs, spelling = c :: cs ∧ c ≠ '#' ∧ isBlank c = false ∧
      ∀ rest, token.endsBefore rest → scan c (cs ++ rest) = .ok ⟨token, spelling, rest⟩ := by
  cases h with
  | @column name hname =>
    refine ⟨'%', name, rfl, by decide, by decide, ?_⟩
    intro rest hr
    rw [scan, scanColumn, columnBody_before hname hr]
  | @identifier c cs hc hcs =>
    refine ⟨c, cs, rfl, ?_, ?_, ?_⟩
    · rintro rfl
      exact absurd hc (by decide)
    · rcases hc with hc | rfl
      · exact isBlank_of_isLetter hc
      · decide
    · intro rest hr
      obtain ⟨ht, hd⟩ := Text.span_append hcs hr
      rw [scan_of_letter hc, scanWord, if_neg (not_beginsNumber_of_letter hc),
        if_pos (by simpa using hc), ht, hd]
  | number hword =>
    obtain ⟨c, cs, rfl, hc⟩ : ∃ c cs, spelling = c :: cs ∧ (c = '-' ∨ Text.isDigit c) := by
      obtain ⟨d, ds, hd, rfl | rfl⟩ := hword.begins
      · exact ⟨d, ds, rfl, .inr hd⟩
      · exact ⟨'-', d :: ds, rfl, .inl rfl⟩
    refine ⟨c, cs, rfl, ?_, ?_, ?_⟩
    · rintro rfl
      exact absurd hc (by decide)
    · rcases hc with rfl | hc
      · decide
      · exact Text.isBlank_of_isDigit hc
    · intro rest hr
      obtain ⟨hb, hs⟩ := splitNumber_of_isNumberWord hword hr
      rw [scan_of_beginsNumber hb, scanWord, if_pos hb, hs]
  | @string quote body value hquote hbody =>
    have hscan : scan quote = scanString quote ∧ quote ≠ '\\' ∧ quote ≠ '#' ∧
        isBlank quote = false := by
      simp only [List.mem_cons, List.not_mem_nil, or_false] at hquote
      rcases hquote with rfl | rfl <;> exact ⟨rfl, by decide⟩
    obtain ⟨hscan, hescape, hsharp, hb⟩ := hscan
    refine ⟨quote, body ++ [quote], rfl, hsharp, hb, ?_⟩
    intro rest _
    rw [hscan, scanString, List.append_assoc, List.singleton_append,
      stringBody_of_isQuoted hescape hbody]
    rfl
  | @regex body pattern hbody =>
    refine ⟨'/', body ++ ['/'], rfl, by decide, by decide, ?_⟩
    intro rest _
    rw [scan, scanRegex, List.append_assoc, List.singleton_append, regexBody_of_isSlashed hbody]
  | operator op =>
    cases op
    case less =>
      refine ⟨'<', [], rfl, by decide, by decide, fun rest hr => ?_⟩
      exact congrArg Except.ok (withEquals_alone (of_decide_eq_true hr))
    case greater =>
      refine ⟨'>', [], rfl, by decide, by decide, fun rest hr => ?_⟩
      exact congrArg Except.ok (withEquals_alone (of_decide_eq_true hr))
    case lessEqual => exact ⟨'<', ['='], rfl, by decide, by decide, fun _ _ => rfl⟩
    case equal => exact ⟨'=', ['='], rfl, by decide, by decide, fun _ _ => rfl⟩
    case notEqual => exact ⟨'!', ['='], rfl, by decide, by decide, fun _ _ => rfl⟩
    case greaterEqual => exact ⟨'>', ['='], rfl, by decide, by decide, fun _ _ => rfl⟩
  | mark m =>
    have hhead : m.symbol ≠ '#' ∧ isBlank m.symbol = false := by
      cases m <;> decide
    refine ⟨m.symbol, [], rfl, hhead.1, hhead.2, fun rest hr => ?_⟩
    cases m
    case bang => exact congrArg Except.ok (withEquals_alone (of_decide_eq_true hr))
    all_goals rfl

end LineFilter.Token
