import Mathlib.Data.List.Forall2
import LineFilter.Proofs.Script.Spacing
import LineFilter.Value.Basic

/-!
# Strings between quotes

Every text can be written between either kind of quotes, a character after the
other, each for itself or as an escape; and what is written so is decoded in one
way. Behind an opening quote there is such a body with its closing quote, or one
that breaks off at a backslash without an escape or at the end of the script,
and then the error stands at the opening quote.
-/

namespace LineFilter.Token

-- ---------------------------------------------------------------------------
-- Bodies
-- ---------------------------------------------------------------------------

/-- The characters that may stand behind a backslash, and what each escape
stands for. -/
def escapes : List (Char × Char) :=
  [('n', '\n'), ('t', '\t'), ('r', '\r'), ('"', '"'), ('\'', '\''), ('\\', '\\')]

/-- A character and how it may be written between quotes. -/
inductive IsWritten (quote : Char) : Char → Text → Prop
  | plain {c} : c ≠ quote → c ≠ '\\' → IsWritten quote c [c]
  | escape {e d} : (e, d) ∈ escapes → IsWritten quote d ['\\', e]

/-- A text and what may stand for it between quotes. -/
def Encodes (quote : Char) (value body : Text) : Prop :=
  ∃ pieces, List.Forall₂ (IsWritten quote) value pieces ∧ pieces.flatten = body

/-- What stands between quotes with the escapes resolved, whatever the quotes
are. -/
def decode : Text → Option Text
  | [] => some []
  | ['\\'] => none
  | '\\' :: e :: cs => (escapes.lookup e).bind fun d => (decode cs).map (d :: ·)
  | c :: cs => (decode cs).map (c :: ·)

/-- What stands behind an opening quote: a body and the closing quote, a body
and a backslash without an escape, or a body up to the end, there perhaps with a
backslash alone. -/
inductive Opens (quote : Char) : Text → Except LexFault (Text × Text × Text) → Prop
  | closed {value body rest} : Encodes quote value body →
      Opens quote (body ++ quote :: rest) (.ok (value, body ++ [quote], rest))
  | noEscape {value body e rest} : Encodes quote value body → (∀ d, (e, d) ∉ escapes) →
      Opens quote (body ++ '\\' :: e :: rest) (.error (.badEscape e))
  | unclosed {value body} : Encodes quote value body →
      Opens quote body (.error .unterminatedString)
  | openEscape {value body} : Encodes quote value body →
      Opens quote (body ++ ['\\']) (.error .unterminatedString)

variable {quote c e d : Char} {cs body value rest : Text}

theorem unescape_eq_some : unescape e = some d ↔ (e, d) ∈ escapes := by
  constructor
  · intro h
    unfold unescape at h
    split at h <;> cases h <;> decide
  · intro h
    simp only [escapes, List.mem_cons, Prod.mk.injEq, List.not_mem_nil, or_false] at h
    rcases h with
      ⟨rfl, rfl⟩ | ⟨rfl, rfl⟩ | ⟨rfl, rfl⟩ | ⟨rfl, rfl⟩ | ⟨rfl, rfl⟩ | ⟨rfl, rfl⟩ <;> rfl

theorem unescape_eq_none : unescape e = none ↔ ∀ d, (e, d) ∉ escapes := by
  simp only [Option.eq_none_iff_forall_ne_some, ne_eq, unescape_eq_some]

/-- No two escapes have the same character behind the backslash. -/
theorem lookup_of_mem_escapes (h : (e, d) ∈ escapes) : escapes.lookup e = some d := by
  simp only [escapes, List.mem_cons, Prod.mk.injEq, List.not_mem_nil, or_false] at h
  rcases h with ⟨rfl, rfl⟩ | ⟨rfl, rfl⟩ | ⟨rfl, rfl⟩ | ⟨rfl, rfl⟩ | ⟨rfl, rfl⟩ | ⟨rfl, rfl⟩ <;> rfl

theorem encodes_nil : Encodes quote [] [] := ⟨[], .nil, rfl⟩

theorem IsWritten.cons {piece : Text} (hc : IsWritten quote c piece)
    (h : Encodes quote value body) : Encodes quote (c :: value) (piece ++ body) := by
  obtain ⟨pieces, hpieces, rfl⟩ := h
  exact ⟨piece :: pieces, .cons hc hpieces, rfl⟩

/-- A body is what the reader takes for one. -/
theorem isQuoted_iff : IsQuoted quote body value ↔ Encodes quote value body := by
  constructor
  · intro h
    induction h with
    | nil => exact encodes_nil
    | plain hc hs _ ih => exact (IsWritten.plain hc hs).cons ih
    | escape he _ ih => exact (IsWritten.escape (unescape_eq_some.mp he)).cons ih
  · rintro ⟨pieces, hpieces, rfl⟩
    induction hpieces with
    | nil => exact .nil
    | cons hc _ ih =>
      cases hc with
      | plain hc hs => exact .plain hc hs ih
      | escape he => exact .escape (unescape_eq_some.mpr he) ih

theorem decode_plain (hc : c ≠ '\\') : decode (c :: cs) = (decode cs).map (c :: ·) := by
  rw [decode]
  · exact fun h => absurd h hc
  · exact fun _ _ h => absurd h hc

theorem Encodes.decode (h : Encodes quote value body) : decode body = some value := by
  obtain ⟨pieces, hpieces, rfl⟩ := h
  induction hpieces with
  | nil => rfl
  | cons hc _ ih =>
    cases hc with
    | plain _ hs =>
      rw [List.flatten_cons, List.singleton_append, decode_plain hs, ih]
      rfl
    | escape he =>
      rw [List.flatten_cons, List.cons_append, List.singleton_append, Token.decode,
        lookup_of_mem_escapes he, ih]
      rfl

/-- There are no quotes that a text can not stand between. -/
theorem exists_encodes (quote : Char) (hq : (quote, quote) ∈ escapes) (value : Text) :
    ∃ body, Encodes quote value body := by
  induction value with
  | nil => exact ⟨[], encodes_nil⟩
  | cons c value ih =>
    obtain ⟨body, hbody⟩ := ih
    by_cases hc : c = quote
    · exact ⟨_, (IsWritten.escape (hc ▸ hq)).cons hbody⟩
    by_cases hs : c = '\\'
    · have hmem : ('\\', '\\') ∈ escapes := by decide
      exact ⟨_, (IsWritten.escape (hs ▸ hmem)).cons hbody⟩
    · exact ⟨_, (IsWritten.plain hc hs).cons hbody⟩

-- ---------------------------------------------------------------------------
-- Behind a quote
-- ---------------------------------------------------------------------------

theorem IsWritten.opens {piece : Text} {result : Except LexFault (Text × Text × Text)}
    (hc : IsWritten quote c piece) (h : Opens quote cs result) :
    Opens quote (piece ++ cs)
      (result.map fun (value, spelling, rest) => (c :: value, piece ++ spelling, rest)) := by
  cases h with
  | closed hbody =>
    rw [← List.append_assoc]
    simpa [Except.map] using Opens.closed (hc.cons hbody)
  | noEscape hbody he =>
    rw [← List.append_assoc]
    exact .noEscape (hc.cons hbody) he
  | unclosed hbody => exact .unclosed (hc.cons hbody)
  | openEscape hbody =>
    rw [← List.append_assoc]
    exact .openEscape (hc.cons hbody)

theorem opens_stringBody (quote : Char) (cs : Text) : Opens quote cs (stringBody quote cs) := by
  fun_induction stringBody quote cs with
  | case1 => exact .unclosed encodes_nil
  | case2 cs => exact .closed encodes_nil
  | case3 => exact .openEscape encodes_nil
  | case4 e cs he => exact .noEscape encodes_nil (unescape_eq_none.mp he)
  | case5 e cs d he _ ih => exact (IsWritten.escape (unescape_eq_some.mp he)).opens ih
  | case6 c cs hc hs ih => exact (IsWritten.plain hc hs).opens ih

theorem Opens.stringBody_eq {result : Except LexFault (Text × Text × Text)} (hq : quote ≠ '\\')
    (h : Opens quote cs result) : stringBody quote cs = result := by
  cases h with
  | closed hbody => exact stringBody_of_isQuoted hq (isQuoted_iff.mpr hbody) _
  | noEscape hbody he =>
    rw [stringBody_behind hq (isQuoted_iff.mpr hbody),
      stringBody_backslash hq (unescape_eq_none.mpr he)]
    rfl
  | unclosed hbody =>
    have hend := stringBody_behind hq (isQuoted_iff.mpr hbody) []
    rwa [List.append_nil] at hend
  | openEscape hbody =>
    rw [stringBody_behind hq (isQuoted_iff.mpr hbody), stringBody_lastBackslash hq]
    rfl

-- ---------------------------------------------------------------------------
-- Strings in a script
-- ---------------------------------------------------------------------------

/-- The characters that strings are put between. -/
def quotes : List Char := ['"', '\'']

theorem ne_backslash_of_mem_quotes (hq : quote ∈ quotes) : quote ≠ '\\' := by
  rintro rfl
  exact absurd hq (by decide)

theorem scan_of_mem_quotes (hq : quote ∈ quotes) (cs : Text) :
    scan quote cs = scanString quote cs := by
  simp only [quotes, List.mem_cons, List.not_mem_nil, or_false] at hq
  rcases hq with rfl | rfl <;> rfl

/-- A cursor in front of a gap and a quote finds the string that stands there, or
faults where it begins. -/
theorem next_quote {gap : Text} (hq : quote ∈ quotes) (hgap : IsGap gap) (cs : Text)
    (place : Position) : Cursor.next ⟨gap ++ quote :: cs, place⟩ =
      match stringBody quote cs with
      | .ok (value, spelling, rest) => .read (.string (quote :: spelling) value) (place.after gap)
          ⟨rest, (place.after gap).after (quote :: spelling)⟩
      | .error fault => .fault ⟨fault, place.after gap⟩ := by
  have hhead : isBlank quote = false ∧ quote ≠ '#' := by
    simp only [quotes, List.mem_cons, List.not_mem_nil, or_false] at hq
    rcases hq with rfl | rfl <;> decide
  rw [Cursor.next, Cursor.skipGap_of_isGap hgap, Cursor.skipGap_of_head hhead.1 hhead.2]
  simp only [scan_of_mem_quotes hq, scanString]
  cases stringBody quote cs <;> rfl

theorem tokenize_of_spelledBy {token : Token} {spelling : Text} (h : token.SpelledBy spelling) :
    tokenize spelling = .ok [token] := by
  let lexeme : Lexeme := ⟨[], spelling, token, .nil, h⟩
  have hspaced : Lexeme.Spaced [lexeme] := List.forall_mem_nil _
  have htokens := Lexeme.tokenize_source hspaced (.closed .nil)
  simpa [Lexeme.source, Lexeme.text, lexeme] using htokens

/-- A string as a script spells it. -/
def spellString (quote : Char) (body : Text) : Text := quote :: (body ++ [quote])

/-- Without a backslash every character stands for itself. -/
theorem Encodes.eq_of_not_mem (h : Encodes quote value body) (hs : '\\' ∉ body) : body = value := by
  obtain ⟨pieces, hpieces, rfl⟩ := h
  induction hpieces with
  | nil => rfl
  | cons hc _ ih =>
    rw [List.flatten_cons, List.mem_append, not_or] at hs
    cases hc with
    | plain => rw [List.flatten_cons, ih hs.2, List.singleton_append]
    | escape => exact absurd List.mem_cons_self hs.1

theorem between_spellString (other quote : Char) (body : Text) :
    Value.between other (spellString quote body) = if quote = other then some body else none := by
  rw [spellString, Value.between]
  by_cases hquote : quote = other
  · simp [hquote]
  · simp [hquote]

theorem ofQuoted_spellString (hq : quote ∈ quotes) (body : Text) :
    Value.ofQuoted (spellString quote body) = .string (spellString quote body) body := by
  rw [Value.ofQuoted, between_spellString, between_spellString]
  simp only [quotes, List.mem_cons, List.not_mem_nil, or_false] at hq
  rcases hq with rfl | rfl <;> rfl

/-- What strings between quotes of one kind are. -/
structure Carries (quote : Char) : Prop where
  /-- They can carry every text. -/
  writable : ∀ value, ∃ body, Encodes quote value body
  single : ∀ value body, Encodes quote value body →
    tokenize (spellString quote body) = .ok [.string (spellString quote body) value]
  /-- Whatever a body stands for, it is what its escapes resolve to. -/
  decoded : ∀ value body, Encodes quote value body → decode body = some value
  /-- Behind every quote stands a string or a fault. -/
  opens : ∀ cs, ∃ result, Opens quote cs result
  read : ∀ cs value spelling rest, Opens quote cs (.ok (value, spelling, rest)) →
    ∀ gap, IsGap gap → ∀ place, Cursor.next ⟨gap ++ quote :: cs, place⟩ =
      .read (.string (quote :: spelling) value) (place.after gap)
        ⟨rest, (place.after gap).after (quote :: spelling)⟩
  /-- A fault stands at the quote. -/
  fault : ∀ cs fault, Opens quote cs (.error fault) → ∀ gap, IsGap gap → ∀ place,
    Cursor.next ⟨gap ++ quote :: cs, place⟩ = .fault ⟨fault, place.after gap⟩

/-- What a string token is. -/
structure IsString (raw value : Text) : Prop where
  spelled : ∃ quote ∈ quotes, ∃ body, raw = spellString quote body ∧ Encodes quote value body ∧
    decode body = some value
  again : tokenize raw = .ok [.string raw value]
  /-- Without escapes it is its own text without the quotes. -/
  plain : '\\' ∉ raw → Value.ofQuoted raw = .string raw value

theorem carries (hq : quote ∈ quotes) : Carries quote where
  writable value := by
    refine exists_encodes quote ?_ value
    simp only [quotes, List.mem_cons, List.not_mem_nil, or_false] at hq
    rcases hq with rfl | rfl <;> decide
  single value body h := tokenize_of_spelledBy (.string hq (isQuoted_iff.mpr h))
  decoded _ _ := Encodes.decode
  opens cs := ⟨_, opens_stringBody quote cs⟩
  read cs value spelling rest h gap hgap place := by
    rw [next_quote hq hgap, h.stringBody_eq (ne_backslash_of_mem_quotes hq)]
  fault cs fault h gap hgap place := by
    rw [next_quote hq hgap, h.stringBody_eq (ne_backslash_of_mem_quotes hq)]

theorem SpelledBy.isString {raw spelling : Text} (h : (Token.string raw value).SpelledBy spelling) :
    IsString raw value := by
  cases h with
  | @string quote body _ hq hbody =>
    constructor
    case spelled =>
      have hencodes := isQuoted_iff.mp hbody
      exact ⟨quote, hq, body, rfl, hencodes, hencodes.decode⟩
    case again => exact tokenize_of_spelledBy (.string hq hbody)
    case plain =>
      intro hs
      have hbody' : '\\' ∉ body := fun hmem => hs (by simp [hmem])
      rw [← (isQuoted_iff.mp hbody).eq_of_not_mem hbody']
      exact ofQuoted_spellString hq body

/-- Strings carry every text, and every string of a script tells its text and
how it was written. -/
theorem strings_carry :
    (∀ quote ∈ quotes, Carries quote) ∧
      ∀ script raw value, .string raw value ∈ (TokenStream.ofScript script).tokens →
        IsString raw value := by
  refine ⟨fun _ => carries, ?_⟩
  intro script raw value h
  obtain ⟨spelling, hspelling⟩ := TokenStream.exists_spelledBy h
  exact hspelling.isString

/-- A quote of either kind, and a line feed. -/
def mixed : Text := ['i', '\'', '\n', '"']

theorem encodes_mixed : Encodes '\'' mixed "i\\'\\n\"".toList := by
  have hend : Encodes '\'' ['"'] ['"'] := (IsWritten.plain (by decide) (by decide)).cons encodes_nil
  have hline : Encodes '\'' ['\n', '"'] ['\\', 'n', '"'] := (IsWritten.escape (by decide)).cons hend
  have hquote : Encodes '\'' ['\'', '\n', '"'] ['\\', '\'', '\\', 'n', '"'] :=
    (IsWritten.escape (by decide)).cons hline
  exact (IsWritten.plain (by decide) (by decide)).cons hquote

theorem strings_carry_mixed :
    tokenize "'i\\'\\n\"'".toList = .ok [.string "'i\\'\\n\"'".toList mixed] ∧
      Cursor.next ⟨"\t'i\\'\\n\"\\s'".toList, .start⟩ = .fault ⟨.badEscape 's', ⟨1, 2⟩⟩ ∧
      IsString "'i\\'\\n\"'".toList mixed := by
  have hsingle := (strings_carry.1 '\'' (by decide)).single mixed _ encodes_mixed
  refine ⟨hsingle, ?_, ?_⟩
  · have hfault : Opens '\'' ("i\\'\\n\"".toList ++ ['\\', 's', '\'']) (.error (.badEscape 's')) :=
      .noEscape encodes_mixed (unescape_eq_none.mp rfl)
    exact (strings_carry.1 '\'' (by decide)).fault _ _ hfault ['\t']
      (.blank (by decide) .nil) .start
  · exact strings_carry.2 "%1 != 'i\\'\\n\"'".toList _ _ (by decide +kernel)

end LineFilter.Token
