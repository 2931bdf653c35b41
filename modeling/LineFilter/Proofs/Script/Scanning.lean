import LineFilter.Proofs.Script.Form
import LineFilter.Proofs.Script.Scanner

/-!
# What a scanner reads

Each reader of a scanner gives the token or the fault that scanning the rest of
the script gives, and moves over the spelling, or over some of the text at
fault. So a call finds what a cursor finds, the position of a scanner that was
called any number of times is in the script, and a token takes it on.
-/

namespace LineFilter.Scanner

variable {s t : Scanner} {c : Char} {cs passed : Text}

/-- What a reader gives where `scan` gives a token or a fault: the same, with the
scanner behind the spelling, or somewhere in the text at fault. -/
inductive Agrees (s : Scanner) :
    Except LexFault Scanned → Except LexFault Token × Scanner → Prop
  | read (scanned) {t} : Passes s scanned.spelling t →
      Agrees s (.ok scanned) (.ok scanned.token, t)
  | fault {fault passed t} : Passes s passed t → Agrees s (.error fault) (.error fault, t)

/-- The same with a text in front that belongs to the token. -/
def behind (passed : Text) (scanned : Scanned) : Scanned :=
  ⟨scanned.token, passed ++ scanned.spelling, scanned.rest⟩

theorem Agrees.behind {scanned : Except LexFault Scanned} {found : Except LexFault Token × Scanner}
    (hp : Passes s passed t) (h : Agrees t scanned found) :
    Agrees s (scanned.map (behind passed)) found := by
  cases h with
  | read scanned hread => exact .read (Scanner.behind passed scanned) (hp.trans hread)
  | fault hfault => exact .fault (hp.trans hfault)

/-- The column of a sign and the digits at the front of a text. -/
def scanIndex (sign cs : Text) : Except LexFault Scanned :=
  match cs.takeWhile Text.isDigit with
  | [] => .error .noColumnNumber
  | digits => .ok ⟨.column ('%' :: (sign ++ digits)), '%' :: (sign ++ digits),
      cs.dropWhile Text.isDigit⟩

theorem readIndex_agrees (sign : Text) (h : Passes s ('%' :: sign) t) :
    Agrees s (scanIndex sign t.rest) (t.readIndex sign) := by
  obtain ⟨hdigits, hpasses⟩ := readWhile_passes Text.isDigit t
  unfold scanIndex readIndex
  cases hword : t.rest.takeWhile Text.isDigit with
  | nil =>
    rw [hword] at hdigits
    simp only [hdigits, if_true]
    exact .fault (h.trans hpasses)
  | cons d ds =>
    rw [hword] at hdigits hpasses
    simp only [hdigits, reduceCtorEq, if_false]
    exact .read ⟨_, _, _⟩ (h.trans hpasses)

theorem scanColumn_index (hcount : cs.head? ≠ some '#') (hsign : cs.head? ≠ some '-') :
    Token.scanColumn '%' cs = scanIndex [] cs := by
  cases cs with
  | nil => rfl
  | cons d ds =>
    rw [List.head?_cons, ne_eq, Option.some.injEq] at hcount hsign
    unfold Token.scanColumn Token.columnBody scanIndex
    cases hword : (d :: ds).takeWhile Text.isDigit <;> simp [hcount, hsign, hword]

theorem scanColumn_sign (ds : Text) :
    Token.scanColumn '%' ('-' :: ds) = scanIndex ['-'] ds := by
  unfold Token.scanColumn Token.columnBody scanIndex
  cases hword : ds.takeWhile Text.isDigit <;> simp [hword]

theorem readColumn_agrees (h : s.rest = '%' :: cs) :
    Agrees s (Token.scanColumn '%' cs) s.readColumn := by
  have hsigil := Passes.step h
  have hcs := rest_advance h
  unfold readColumn
  simp only [current?_eq, hcs]
  by_cases hcount : cs.head? = some '#'
  · obtain ⟨ds, rfl⟩ := List.head?_eq_some_iff.mp hcount
    exact .read ⟨_, ['%', '#'], ds⟩ (hsigil.trans (.step hcs))
  by_cases hsign : cs.head? = some '-'
  · obtain ⟨ds, rfl⟩ := List.head?_eq_some_iff.mp hsign
    rw [if_neg hcount, if_pos hsign, scanColumn_sign, ← rest_advance hcs]
    exact readIndex_agrees ['-'] (hsigil.trans (.step hcs))
  · rw [if_neg hcount, if_neg hsign, scanColumn_index hcount hsign, ← hcs]
    exact readIndex_agrees [] hsigil

/-- What a string reads to behind a spelling and a text so far. -/
def stringBehind (raw value : Text) : Text × Text × Text → Scanned :=
  fun (more, spelling, rest) => ⟨.string (raw ++ spelling) (value ++ more), spelling, rest⟩

theorem Agrees.stringBehind {body : Except LexFault (Text × Text × Text)} {raw value more : Text}
    {found : Except LexFault Token × Scanner} (hp : Passes s passed t)
    (h : Agrees t (body.map (Scanner.stringBehind (raw ++ passed) (value ++ more))) found) :
    Agrees s ((body.map fun (text, spelling, rest) => (more ++ text, passed ++ spelling, rest)).map
      (Scanner.stringBehind raw value)) found := by
  have hbehind := h.behind hp
  cases body with
  | error => exact hbehind
  | ok => simpa [Except.map, Scanner.behind, Scanner.stringBehind] using hbehind

theorem readString_agrees {quote : Char} (hq : quote ≠ '\\') (raw value : Text) (s : Scanner) :
    Agrees s ((Token.stringBody quote s.rest).map (stringBehind raw value))
      (s.readString quote raw value) := by
  fun_induction readString quote raw value s with
  | case1 raw value s h =>
    rw [rest_of_current?_none h]
    exact .fault (.refl s)
  | case2 raw value s h =>
    obtain ⟨cs, hrest⟩ := exists_rest_of_current? h
    rw [hrest, Token.stringBody_closed]
    simpa [stringBehind, Except.map] using
      Agrees.read (stringBehind raw value ([], [quote], cs)) (.step hrest)
  | case3 raw value s hend h =>
    obtain ⟨cs, hrest⟩ := exists_rest_of_current? h
    have hcs := rest_of_current?_none hend
    rw [rest_advance hrest] at hcs
    rw [hrest, hcs, Token.stringBody_lastBackslash hq]
    exact .fault (.step hrest)
  | case4 raw value s e he hbad h =>
    obtain ⟨cs, hrest⟩ := exists_rest_of_current? h
    obtain ⟨ds, hcs⟩ := exists_rest_of_current? he
    rw [rest_advance hrest] at hcs
    rw [hrest, hcs, Token.stringBody_backslash hq hbad]
    -- Only the backslash is behind the scanner; the next call goes on with `e`.
    exact .fault (.step hrest)
  | case5 raw value s e he d hd h _ ih =>
    obtain ⟨cs, hrest⟩ := exists_rest_of_current? h
    obtain ⟨ds, hcs⟩ := exists_rest_of_current? he
    have hpasses := (Passes.step hrest).trans (.step hcs)
    rw [rest_advance hcs] at ih
    rw [rest_advance hrest] at hcs
    rw [hrest, hcs, Token.stringBody_escape hq hd]
    exact .stringBehind hpasses ih
  | case6 raw value s c h hc hs ih =>
    obtain ⟨cs, hrest⟩ := exists_rest_of_current? h
    rw [rest_advance hrest] at ih
    rw [hrest, Token.stringBody_plain hc hs]
    exact .stringBehind (.step hrest) ih

/-- What a pattern reads to behind a pattern so far. -/
def regexBehind (pattern : Text) : Option (Text × Text × Text) → Except LexFault Scanned
  | none => .error .unterminatedRegex
  | some (more, spelling, rest) => .ok ⟨.regex (pattern ++ more), spelling, rest⟩

theorem Agrees.regexBehind {body : Option (Text × Text × Text)} {pattern : Text} (more : Text)
    {found : Except LexFault Token × Scanner} (hp : Passes s passed t)
    (h : Agrees t (Scanner.regexBehind (pattern ++ more) body) found) :
    Agrees s (Scanner.regexBehind pattern
      (body.map fun (text, spelling, rest) => (more ++ text, passed ++ spelling, rest))) found := by
  have hbehind := h.behind hp
  cases body with
  | none => exact hbehind
  | some => simpa [Except.map, Scanner.behind, Scanner.regexBehind] using hbehind

theorem readRegex_agrees (pattern : Text) (s : Scanner) :
    Agrees s (regexBehind pattern (Token.regexBody s.rest)) (s.readRegex pattern) := by
  fun_induction readRegex pattern s with
  | case1 pattern s h =>
    rw [rest_of_current?_none h]
    exact .fault (.refl s)
  | case2 pattern s h =>
    obtain ⟨cs, hrest⟩ := exists_rest_of_current? h
    rw [hrest, Token.regexBody]
    simpa [regexBehind] using Agrees.read ⟨.regex pattern, ['/'], cs⟩ (.step hrest)
  | case3 pattern s c h _ hslash ih =>
    obtain ⟨rfl, hpeek⟩ := hslash
    obtain ⟨cs, hrest⟩ := exists_rest_of_current? h
    rw [peek?_of_rest hrest] at hpeek
    obtain ⟨ds, rfl⟩ := List.head?_eq_some_iff.mp hpeek
    have hcs := rest_advance hrest
    rw [rest_advance hcs] at ih
    rw [hrest, Token.regexBody]
    exact .regexBehind ['/'] ((Passes.step hrest).trans (.step hcs)) ih
  | case4 pattern s hend h _ _ ih =>
    -- A backslash at the end is taken for itself, and the end is found after that.
    obtain ⟨cs, hrest⟩ := exists_rest_of_current? h
    have hcs := rest_of_current?_none hend
    rw [hcs] at ih
    rw [rest_advance hrest] at hcs
    rw [hrest, hcs]
    exact .regexBehind [_] (.step hrest) ih
  | case5 pattern s d hd h _ hslash ih =>
    obtain ⟨cs, hrest⟩ := exists_rest_of_current? h
    obtain ⟨ds, hcs⟩ := exists_rest_of_current? hd
    have hpasses := (Passes.step hrest).trans (.step hcs)
    rw [rest_advance hcs] at ih
    rw [rest_advance hrest] at hcs
    have hd : d ≠ '/' := by
      rintro rfl
      exact hslash ⟨rfl, by rw [peek?_of_rest hrest, hcs, List.head?_cons]⟩
    rw [hrest, hcs, Token.regexBody]
    · exact .regexBehind [_, _] hpasses ih
    · exact hd
  | case6 pattern s c h hslash _ hc ih =>
    obtain ⟨cs, hrest⟩ := exists_rest_of_current? h
    rw [rest_advance hrest] at ih
    rw [hrest, Token.regexBody_plain hslash hc]
    exact .regexBehind [_] (.step hrest) ih

/-- Whether a number word goes on, told from the scanner. -/
theorem readNumber_keeps (dated : Bool) (h : s.rest = c :: cs) :
    (c.isAlphanum || c = '_' || c = '.' || (c = '-' && (s.peek? 1).any Text.isDigit) ||
      (c = ':' && (s.peek? 1).any Text.isDigit && dated)) = Token.continuesNumber dated c cs := by
  rw [peek?_of_rest h, Token.continuesNumber, Bool.or_assoc, Bool.and_or_distrib_right]
  rw [Bool.and_right_comm]

theorem readNumber_passes (word : Text) (s : Scanner) :
    (s.readNumber word).1 = word ++ (Token.splitNumber (word.contains 'T') s.rest).1 ∧
      Passes s (Token.splitNumber (word.contains 'T') s.rest).1 (s.readNumber word).2 := by
  fun_induction readNumber word s with
  | case1 word s h =>
    rw [rest_of_current?_none h, Token.splitNumber, List.append_nil]
    exact ⟨rfl, .refl s⟩
  | case2 word s c h nextIsDigit hkeep ih =>
    obtain ⟨cs, hrest⟩ := exists_rest_of_current? h
    rw [readNumber_keeps _ hrest] at hkeep
    have hdated : (word ++ [c]).contains 'T' = (word.contains 'T' || c = 'T') := by
      simp [eq_comm]
    rw [rest_advance hrest, hdated] at ih
    rw [hrest, Token.splitNumber, if_pos hkeep]
    refine ⟨?_, .cons hrest ih.2⟩
    rw [ih.1, List.append_assoc]
    rfl
  | case3 word s c h nextIsDigit hkeep =>
    obtain ⟨cs, hrest⟩ := exists_rest_of_current? h
    rw [readNumber_keeps _ hrest] at hkeep
    rw [hrest, Token.splitNumber, if_neg hkeep, List.append_nil]
    exact ⟨rfl, .refl s⟩

theorem single_agrees (mark : Mark) (h : s.rest = c :: cs) :
    Agrees s (.ok (Token.single mark c cs)) (s.single mark) :=
  .read (Token.single mark c cs) (.step h)

/-- A character and `=` behind it. -/
theorem Passes.equals (h : s.rest = c :: cs) (heq : s.peek? 1 = some '=') :
    Passes s [c, '='] s.advance.advance ∧ ∃ ds, cs = '=' :: ds := by
  rw [peek?_of_rest h] at heq
  obtain ⟨ds, rfl⟩ := List.head?_eq_some_iff.mp heq
  exact ⟨.cons h (.step (rest_advance h)), ds, rfl⟩

theorem withEquals_agrees (alone joined : Token) (h : s.rest = c :: cs) :
    Agrees s (.ok (Token.withEquals alone joined c cs)) (s.withEquals alone joined) := by
  unfold withEquals
  split
  · rename_i heq
    obtain ⟨hpasses, ds, rfl⟩ := Passes.equals h heq
    exact .read ⟨_, _, _⟩ hpasses
  · rename_i heq
    rw [peek?_of_rest h] at heq
    unfold Token.withEquals
    split
    · exact absurd rfl heq
    · exact .read ⟨_, _, _⟩ (.step h)

theorem readEquals_agrees (h : s.rest = '=' :: cs) :
    Agrees s (Token.scanEquals '=' cs) s.readEquals := by
  unfold readEquals
  split
  · rename_i heq
    obtain ⟨hpasses, ds, rfl⟩ := Passes.equals h heq
    exact .read ⟨_, _, _⟩ hpasses
  · rename_i heq
    rw [peek?_of_rest h] at heq
    unfold Token.scanEquals
    split
    · exact absurd rfl heq
    · exact .fault (.refl s)

theorem scanString_agrees {quote : Char} (hq : quote ≠ '\\') (h : s.rest = quote :: cs) :
    Agrees s (Token.scanString quote cs) (s.advance.readString quote [quote] []) := by
  have hbody := readString_agrees hq [quote] [] s.advance
  rw [rest_advance h] at hbody
  have hbehind := hbody.behind (.step h)
  unfold Token.scanString
  generalize Token.stringBody quote cs = body at hbehind ⊢
  cases body <;> exact hbehind

theorem scanRegex_agrees (h : s.rest = '/' :: cs) :
    Agrees s (Token.scanRegex '/' cs) (s.advance.readRegex []) := by
  have hbody := readRegex_agrees [] s.advance
  rw [rest_advance h] at hbody
  have hbehind := hbody.behind (.step h)
  unfold Token.scanRegex
  generalize Token.regexBody cs = body at hbehind ⊢
  cases body <;> exact hbehind

/-- A digit in front of a number word is read like the rest of it. -/
theorem splitNumber_ofDigit (hd : Text.isDigit c) :
    (Token.splitNumber false (c :: cs)).1 = c :: (Token.splitNumber false cs).1 := by
  have hT : c ≠ 'T' := by
    rintro rfl
    exact absurd hd (by decide)
  rw [Token.splitNumber, if_pos (Token.continuesNumber_of_isDigit false hd cs), decide_eq_false hT]
  rfl

theorem continuesName_ofBegins (h : isLetter c || c = '_') : Token.continuesName c := by
  rw [Token.continuesName, isAlphanumeric]
  simp only [Bool.or_eq_true] at h ⊢
  exact h.imp_left .inl

theorem Agrees.word {word : Text} (form : Text → Token) {found : Text × Scanner} (rest : Text)
    (hword : found.1 = word) (h : Passes s word found.2) :
    Agrees s (.ok ⟨form word, word, rest⟩) (.ok (form found.1), found.2) := by
  rw [hword]
  exact .read ⟨_, _, _⟩ h

theorem readWord_agrees (h : s.rest = c :: cs) :
    Agrees s (Token.scanWord c cs) (s.readWord c) := by
  unfold readWord Token.scanWord
  rw [Token.beginsNumber_cons, peek?_of_rest h]
  by_cases hminus : c = '-' ∧ cs.head?.any Text.isDigit
  · obtain ⟨hword, hpasses⟩ := readNumber_passes ['-'] s.advance
    have hdated : ['-'].contains 'T' = false := by decide
    rw [hdated, rest_advance h] at hword hpasses
    have hbegins : (Text.isDigit c || c = '-' && cs.head?.any Text.isDigit) = true := by
      simp [hminus]
    rw [if_pos hminus, if_pos hbegins]
    exact .word .number _ (hminus.1 ▸ hword) (.cons h hpasses)
  by_cases hdigit : Text.isDigit c
  · obtain ⟨hword, hpasses⟩ := readNumber_passes [] s
    rw [List.contains_nil, h, splitNumber_ofDigit hdigit] at hword hpasses
    rw [if_neg hminus, if_pos hdigit, hdigit, Bool.true_or, if_pos rfl]
    exact .word .number _ hword hpasses
  have hbegins : ¬ (Text.isDigit c || c = '-' && cs.head?.any Text.isDigit) = true := by
    simpa [hdigit] using hminus
  rw [if_neg hminus, if_neg hdigit, if_neg hbegins]
  by_cases hletter : isLetter c || c = '_'
  · obtain ⟨hname, hpasses⟩ := readWhile_passes Token.continuesName s
    rw [h, List.takeWhile_cons_of_pos (continuesName_ofBegins hletter)] at hname hpasses
    rw [if_pos hletter, if_pos hletter]
    exact .word .identifier _ hname hpasses
  · rw [if_neg hletter, if_neg hletter]
    exact .fault (.refl s)

theorem readToken_agrees (h : s.rest = c :: cs) :
    Agrees s (Token.scan c cs) (s.readToken c) := by
  unfold Token.scan
  split
  case h_1 => exact readColumn_agrees h
  case h_2 | h_3 => exact scanString_agrees (by decide) h
  case h_4 => exact scanRegex_agrees h
  case h_5 | h_6 | h_7 => exact withEquals_agrees _ _ h
  case h_8 => exact readEquals_agrees h
  case h_18 =>
    have hword : s.readToken c = s.readWord c := by
      unfold readToken
      split <;> simp_all
    rw [hword]
    exact readWord_agrees h
  all_goals exact single_agrees _ h

-- ---------------------------------------------------------------------------
-- Calls
-- ---------------------------------------------------------------------------

/-- A scanner that has read a token stands where the cursor goes on. -/
theorem cursor_of_passes {scanned : Scanned} (h : s.rest = c :: cs)
    (hscan : Token.scan c cs = .ok scanned) (hp : Passes s scanned.spelling t) :
    t.cursor = ⟨scanned.rest, s.place.after scanned.spelling⟩ := by
  obtain ⟨w, hw, hcs⟩ := Token.scan_covers hscan
  have hrest : scanned.spelling ++ t.rest = scanned.spelling ++ scanned.rest := by
    rw [← hp.rest, h, hw, List.cons_append, hcs]
  rw [cursor, hp.place, List.append_cancel_left hrest]

/-- A call moves on over some text, and finds what the cursor finds. -/
theorem next_spec (s : Scanner) :
    s.next.step = s.cursor.next ∧ ∃ passed, Passes s passed s.next.after := by
  have hgap := s.skipGap_passes
  unfold next Cursor.next
  rw [← cursor_skipGap]
  generalize s.skipGap = here at hgap ⊢
  cases hrest : here.rest with
  | nil =>
    have hend : here.current? = none := by rw [current?_eq, hrest, List.head?_nil]
    simp only [hend, cursor, hrest]
    exact ⟨rfl, _, hgap⟩
  | cons c cs =>
    simp only [current?_of_rest hrest, cursor, hrest]
    have hagrees := readToken_agrees hrest
    generalize hscan : Token.scan c cs = scanned at hagrees
    generalize here.readToken c = found at hagrees
    cases hagrees with
    | @read scanned after hp =>
      refine ⟨?_, _, hgap.trans hp⟩
      simp only [Reading.step, cursor_of_passes hrest hscan hp]
    | fault hp => exact ⟨rfl, _, hgap.trans hp⟩

/-- A scanner of a script, after any number of calls, whatever they found. -/
inductive Reached (script : Text) : Scanner → Prop
  | start : Reached script (ofScript script)
  | next {s : Scanner} : Reached script s → Reached script s.next.after

theorem Reached.within {script : Text} (h : Reached script s) :
    s.script = script ∧ s.position ≤ script.length := by
  induction h with
  | start => exact ⟨rfl, Nat.zero_le _⟩
  | @next s _ ih =>
    obtain ⟨-, passed, hp⟩ := s.next_spec
    obtain ⟨hscript, hposition⟩ := ih
    have hsame := hp.script.trans hscript
    refine ⟨hsame, ?_⟩
    have hwithin := hp.within (hscript ▸ hposition)
    rwa [hsame] at hwithin

theorem next_forward {token : Token} (h : s.next.found = .ok (some token)) :
    s.position < s.next.after.position := by
  obtain ⟨hstep, passed, hp⟩ := s.next_spec
  simp only [Reading.step, h] at hstep
  have hshorter := Cursor.length_after_lt_of_next hstep.symm
  simp only [cursor, length_rest, hp.script] at hshorter
  omega

end LineFilter.Scanner
