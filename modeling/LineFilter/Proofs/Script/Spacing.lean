import LineFilter.Proofs.Script.Acceptance
import LineFilter.Proofs.Script.Tiling

/-!
# Gaps between tokens

Spelled tokens with anything between each two that is a gap are read as these
tokens, whatever the gaps are. So a script has the tokens of every other that
spells the same, and its tokens are read again from their own spelling.
-/

namespace LineFilter

namespace Token

/-- A text spells one token at most. -/
theorem SpelledBy.unique {token token' : Token} {spelling : Text} (h : token.SpelledBy spelling)
    (h' : token'.SpelledBy spelling) : token = token' := by
  obtain ⟨c, cs, hw, -, -, hr⟩ := h.reads
  obtain ⟨c', cs', hw', -, -, hr'⟩ := h'.reads
  obtain ⟨rfl, rfl⟩ := List.cons.inj (hw.symm.trans hw')
  have hscan := (hr [] (endsBefore_nil token)).symm.trans (hr' [] (endsBefore_nil token'))
  exact congrArg Scanned.token (Except.ok.inj hscan)

end Token

namespace Lexeme

variable {lexemes lexemes' : List Lexeme} {last : Text}

/-- Something stands between each two of the lexemes. -/
def Spaced (lexemes : List Lexeme) : Prop := ∀ lexeme ∈ lexemes.tail, lexeme.gap ≠ []

/-- A gap ends every token. -/
theorem endsBefore_source (hs : ∀ lexeme ∈ lexemes, lexeme.gap ≠ []) (hl : IsLastGap last)
    (token : Token) : token.endsBefore (source lexemes last) := by
  cases lexemes with
  | nil =>
    rw [source_nil]
    cases last with
    | nil => exact Token.endsBefore_nil token
    | cons c last => exact Token.endsBefore_of_endsAll (Token.endsAll_of_gap hl.head) last token
  | cons lexeme lexemes =>
    obtain ⟨c, gap, hgap⟩ := List.exists_cons_of_ne_nil (hs lexeme List.mem_cons_self)
    have hhead := lexeme.isGap
    rw [hgap] at hhead
    rw [source_cons, hgap]
    exact Token.endsBefore_of_endsAll (Token.endsAll_of_gap hhead.head) _ token

/-- Where each token ends in front of what follows, the tokens are read one after
another. -/
theorem ofCursor_source (hs : Spaced lexemes) (hl : IsLastGap last) (place : Position) :
    ∃ tokens, tokens.map Prod.fst = lexemes.map token ∧
      TokenStream.ofCursor ⟨source lexemes last, place⟩ =
        (TokenStream.finish (place.after (source lexemes last))).behind tokens := by
  induction lexemes generalizing place with
  | nil =>
    refine ⟨[], rfl, TokenStream.ofCursor_finish ?_⟩
    simp [Cursor.next, Cursor.skipGap, Text.splitGap_of_isLastGap hl]
  | cons lexeme lexemes ih =>
    have hends : lexeme.token.endsBefore (source lexemes last) := endsBefore_source hs hl _
    have hspaced : Spaced lexemes := fun l hmem => hs l (List.mem_of_mem_tail hmem)
    obtain ⟨tokens, htokens, hstream⟩ :=
      ih hspaced ((place.after lexeme.gap).after lexeme.spelling)
    refine ⟨(lexeme.token, place.after lexeme.gap) :: tokens, by simp [htokens], ?_⟩
    rw [source_cons, List.append_assoc, TokenStream.ofCursor_gap lexeme.isGap,
      TokenStream.ofCursor_spelled lexeme.spelled hends, hstream]
    simp [Position.after_append]

theorem tokenize_source (hs : Spaced lexemes) (hl : IsLastGap last) :
    tokenize (source lexemes last) = .ok (lexemes.map token) := by
  obtain ⟨tokens, htokens, hstream⟩ := ofCursor_source hs hl .start
  have hscript : TokenStream.ofScript (source lexemes last) = _ := hstream
  rw [tokenize_eq_ok, hscript, TokenStream.placed_behind, TokenStream.ending_behind]
  exact ⟨⟨_, rfl⟩, by simp [htokens, TokenStream.placed]⟩

/-- The spellings say what the tokens are. -/
theorem map_token_of_map_spelling (h : lexemes.map spelling = lexemes'.map spelling) :
    lexemes.map token = lexemes'.map token := by
  induction lexemes generalizing lexemes' with
  | nil => simp_all
  | cons lexeme lexemes ih =>
    cases lexemes' with
    | nil => simp at h
    | cons lexeme' lexemes' =>
      simp only [List.map_cons, List.cons.injEq] at h ⊢
      exact ⟨lexeme.spelled.unique (h.1 ▸ lexeme'.spelled), ih h.2⟩

/-- What reads is the lexemes of its tokens with gaps around them. -/
theorem exists_source_of_tokenize {script : Text} {tokens : List Token}
    (h : tokenize script = .ok tokens) :
    ∃ lexemes last, source lexemes last = script ∧ IsLastGap last ∧
      lexemes.map token = tokens := by
  obtain ⟨⟨place, hending⟩, htokens⟩ := tokenize_eq_ok.mp h
  obtain ⟨lexemes, last, rest, htiled⟩ : ∃ lexemes last rest,
      Tiled (.ofScript script) [] lexemes last rest := Cursor.exists_tiled _ rfl
  rcases htiled.ending with ⟨rfl, hlast, -⟩ | ⟨-, -, error, hfault, -⟩
  · refine ⟨lexemes, last, by simpa [Cursor.ofScript] using htiled.text.symm, hlast, ?_⟩
    rw [← htokens, TokenStream.ofScript, htiled.placed]
    apply List.ext_getElem <;> simp
  · rw [TokenStream.ofScript, hfault] at hending
    cases hending

/-- Gaps between tokens, one at least, do not matter to the tokens of a script;
and a script that reads has the tokens of its own spelling, however it is laid
out. -/
theorem tokenize_layout :
    (∀ lexemes last, Spaced lexemes → IsLastGap last →
      tokenize (source lexemes last) = .ok (lexemes.map token)) ∧
    (∀ lexemes lexemes' last last', Spaced lexemes → Spaced lexemes' → IsLastGap last →
      IsLastGap last' → lexemes.map spelling = lexemes'.map spelling →
        tokenize (source lexemes last) = tokenize (source lexemes' last')) ∧
    ∀ script tokens, tokenize script = .ok tokens →
      ∃ lexemes last, source lexemes last = script ∧ IsLastGap last ∧
        lexemes.map token = tokens ∧
        ∀ lexemes' last', Spaced lexemes' → IsLastGap last' →
          lexemes'.map spelling = lexemes.map spelling →
            tokenize (source lexemes' last') = .ok tokens := by
  refine ⟨fun _ _ => tokenize_source, ?_, ?_⟩
  · intro lexemes lexemes' last last' hs hs' hl hl' h
    rw [tokenize_source hs hl, tokenize_source hs' hl', map_token_of_map_spelling h]
  · intro script tokens h
    obtain ⟨lexemes, last, hscript, hlast, htokens⟩ := exists_source_of_tokenize h
    refine ⟨lexemes, last, hscript, hlast, htokens, ?_⟩
    intro lexemes' last' hs hl h'
    rw [tokenize_source hs hl, map_token_of_map_spelling h', htokens]

/-- A column, an operator and a pattern with an escaped slash. -/
def commentedLexemes : List Lexeme :=
  [⟨[], ['%', '1'], .column ['%', '1'], .nil,
      .column (.fromLeft (List.all_eq_true.mp rfl))⟩,
    ⟨'#' :: (" column".toList ++ ['\n']), ['<', '='], .operator .lessEqual,
      .comment (by decide) .nil, .operator .lessEqual⟩,
    ⟨['\t'], "/a\\//".toList, .regex ['a', '/'], .blank (by decide) .nil,
      .regex (.plain (by decide) (by decide) (.slash .nil))⟩]

theorem tokenize_layout_commented :
    Spaced commentedLexemes ∧ IsLastGap "# end".toList ∧
      tokenize "%1# column\n<=\t/a\\//# end".toList =
        .ok [.column ['%', '1'], .operator .lessEqual, .regex ['a', '/']] := by
  have hs : Spaced commentedLexemes := by
    simp [Spaced, commentedLexemes]
  have hl : IsLastGap "# end".toList := .comment .nil (by decide)
  exact ⟨hs, hl, tokenize_layout.1 commentedLexemes _ hs hl⟩

end Lexeme

end LineFilter
