import LineFilter.Proofs.Script.Spelling

/-!
# Tokens in their script

A script is its tokens as they are spelled, with gaps in front of them and at
the end, up to the first text that does not read. The places that come with the
tokens, the end and the fault count the lines and columns in front of them.
-/

namespace LineFilter

/-- The place behind a text: a line for each line feed, and the column in the
last of the lines. -/
def Position.behind (before : Text) : Position :=
  ⟨before.count '\n' + 1, (before.reverse.takeWhile (· ≠ '\n')).length + 1⟩

theorem Position.after_behind (before text : Text) :
    (Position.behind before).after text = .behind (before ++ text) := by
  induction text generalizing before with
  | nil => simp
  | cons c text ih =>
    have hstep : (Position.behind before).step c = .behind (before ++ [c]) := by
      by_cases hc : c = '\n' <;> simp [step, behind, hc]
    have := ih (before ++ [c])
    rw [List.append_assoc, List.singleton_append, ← hstep] at this
    exact this

/-- A token as it stands in a script: the gap in front of it and its spelling. -/
structure Lexeme where
  gap : Text
  spelling : Text
  token : Token
  isGap : IsGap gap
  spelled : token.SpelledBy spelling

namespace Lexeme

def text (lexeme : Lexeme) : Text := lexeme.gap ++ lexeme.spelling

/-- The script of some lexemes, with what follows the last of them. -/
def source (lexemes : List Lexeme) (last : Text) : Text := lexemes.flatMap text ++ last

@[simp] theorem source_nil (last : Text) : source [] last = last := rfl

theorem source_cons (lexeme : Lexeme) (lexemes : List Lexeme) (last : Text) :
    source (lexeme :: lexemes) last = lexeme.gap ++ lexeme.spelling ++ source lexemes last := by
  simp [source, text]

theorem spelling_ne_nil (lexeme : Lexeme) : lexeme.spelling ≠ [] := by
  obtain ⟨c, cs, hw, -⟩ := lexeme.spelled.reads
  simp [hw]

end Lexeme

-- ---------------------------------------------------------------------------
-- Readings one after another
-- ---------------------------------------------------------------------------

namespace Cursor

/-- Where reading goes on: behind the token, or where there was none. -/
def onward (cursor : Cursor) : Cursor :=
  match cursor.next with
  | .read _ _ after => after
  | .finish _ | .fault _ => cursor.skipGap

/-- What the reading with this number finds, from 0. -/
def found (cursor : Cursor) : Nat → Step
  | 0 => cursor.next
  | n + 1 => cursor.onward.found n

/-- What there is to find: a gap, and behind it the end of the script, a text
that does not read, or a token. -/
inductive Finds (cursor : Cursor) : Step → Prop
  | finish : IsLastGap cursor.rest → Finds cursor (.finish (cursor.place.after cursor.rest))
  | fault {gap rest} (fault : LexFault) : cursor.rest = gap ++ rest → IsGap gap → rest ≠ [] →
      Finds cursor (.fault ⟨fault, cursor.place.after gap⟩)
  | read {rest} (lexeme : Lexeme) : cursor.rest = lexeme.gap ++ lexeme.spelling ++ rest →
      Finds cursor (.read lexeme.token (cursor.place.after lexeme.gap)
        ⟨rest, (cursor.place.after lexeme.gap).after lexeme.spelling⟩)

theorem next_finds (cursor : Cursor) : cursor.Finds cursor.next := by
  have hsplit := Text.splitGap_append false cursor.rest
  obtain ⟨hlast, hgap⟩ := Text.isGap_splitGap cursor.rest
  simp only [next, skipGap]
  cases hrest : (Text.splitGap false cursor.rest).2 with
  | nil =>
    rw [hrest, List.append_nil] at hsplit
    rw [hsplit] at hlast ⊢
    exact .finish hlast
  | cons c cs =>
    rw [hrest] at hsplit hgap
    have hgap := hgap (List.cons_ne_nil c cs)
    cases hs : Token.scan c cs with
    | error fault =>
      simp only [hs]
      exact .fault fault hsplit.symm hgap (List.cons_ne_nil c cs)
    | ok s =>
      obtain ⟨w, hw, hcs⟩ := Token.scan_covers hs
      simp only [hs]
      refine .read ⟨_, s.spelling, s.token, hgap, Token.spelledBy_of_scan hs⟩ ?_
      simpa [hw, hcs] using hsplit.symm

variable {cursor : Cursor} {place : Position}

theorem onward_finish (h : cursor.next = .finish place) :
    cursor.onward.next = .finish place := by
  have honward : cursor.onward = cursor.skipGap := by
    simp [onward, h]
  simp only [next] at h
  split at h
  · rename_i hrest
    cases h
    have hend : cursor.skipGap = ⟨[], cursor.skipGap.place⟩ := by
      rw [← hrest]
    rw [honward, hend]
    rfl
  · split at h <;> cases h

/-- Behind the last token every reading finds the end. -/
theorem found_finish (h : cursor.next = .finish place) (n : Nat) :
    cursor.found n = .finish place := by
  induction n generalizing cursor with
  | zero => exact h
  | succ n ih => exact ih (onward_finish h)

end Cursor

-- ---------------------------------------------------------------------------
-- The tokens of a script
-- ---------------------------------------------------------------------------

open Lexeme (source)

/-- The text at a cursor, with `before` in front of it, as lexemes, the gap
`last` and a text `rest` that does not read. -/
structure Tiled (cursor : Cursor) (before : Text) (lexemes : List Lexeme) (last rest : Text) :
    Prop where
  text : cursor.rest = source lexemes last ++ rest
  spellings : ∀ lexeme ∈ lexemes, lexeme.spelling ≠ []
  placed : (TokenStream.ofCursor cursor).placed = lexemes.mapIdx fun i lexeme =>
    (lexeme.token, .behind (before ++ source (lexemes.take i) lexeme.gap))
  reads : ∀ i (h : i < lexemes.length), ∃ after, cursor.found i =
    .read lexemes[i].token (.behind (before ++ source (lexemes.take i) lexemes[i].gap)) after
  ending :
    rest = [] ∧ IsLastGap last ∧
        (TokenStream.ofCursor cursor).ending = .ok (.behind (before ++ cursor.rest)) ∧
        (∀ n, lexemes.length ≤ n → cursor.found n = .finish (.behind (before ++ cursor.rest))) ∨
      rest ≠ [] ∧ IsGap last ∧ ∃ error, (TokenStream.ofCursor cursor).ending = .error error ∧
        cursor.found lexemes.length = .fault error ∧
        error.place = .behind (before ++ source lexemes last)

namespace Tiled

variable {cursor : Cursor} {before last rest : Text} {lexemes : List Lexeme}

theorem finish (hplace : cursor.place = .behind before) (hgap : IsLastGap cursor.rest)
    (hnext : cursor.next = .finish (cursor.place.after cursor.rest)) :
    Tiled cursor before [] cursor.rest [] where
  text := by simp
  spellings := by simp
  placed := by simp [TokenStream.ofCursor_finish hnext, TokenStream.placed]
  reads := by simp
  ending := by
    rw [hplace, Position.after_behind] at hnext
    refine .inl ⟨rfl, hgap, ?_, fun n _ => Cursor.found_finish hnext n⟩
    rw [TokenStream.ofCursor_finish hnext]
    rfl

theorem fault {fault : LexFault} (hplace : cursor.place = .behind before)
    (htext : cursor.rest = last ++ rest) (hgap : IsGap last) (hrest : rest ≠ [])
    (hnext : cursor.next = .fault ⟨fault, cursor.place.after last⟩) :
    Tiled cursor before [] last rest where
  text := by simp [htext]
  spellings := by simp
  placed := by simp [TokenStream.ofCursor_fault hnext, TokenStream.placed]
  reads := by simp
  ending := by
    rw [hplace, Position.after_behind] at hnext
    refine .inr ⟨hrest, hgap, _, ?_, hnext, rfl⟩
    rw [TokenStream.ofCursor_fault hnext]
    rfl

/-- One more token in front. -/
theorem cons {after : Cursor} {lexeme : Lexeme} (hplace : cursor.place = .behind before)
    (htext : cursor.rest = lexeme.gap ++ lexeme.spelling ++ after.rest)
    (hnext : cursor.next = .read lexeme.token (cursor.place.after lexeme.gap) after)
    (h : Tiled after (before ++ lexeme.gap ++ lexeme.spelling) lexemes last rest) :
    Tiled cursor before (lexeme :: lexemes) last rest := by
  rw [hplace, Position.after_behind] at hnext
  have hstream := TokenStream.ofCursor_read hnext
  have hfound (n : Nat) : cursor.found (n + 1) = after.found n := by
    rw [Cursor.found, Cursor.onward, hnext]
  have hbefore : before ++ lexeme.gap ++ lexeme.spelling ++ after.rest = before ++ cursor.rest := by
    simp [htext]
  constructor
  · simp [htext, h.text, Lexeme.source_cons]
  · intro l hl
    exact l.spelling_ne_nil
  · rw [hstream, TokenStream.placed, h.placed]
    simp [List.mapIdx_cons, Lexeme.source_cons]
  · intro i hi
    cases i with
    | zero => exact ⟨after, hnext⟩
    | succ i =>
      obtain ⟨next, hread⟩ := h.reads i (Nat.lt_of_succ_lt_succ hi)
      exact ⟨next, by simpa [hfound, Lexeme.source_cons] using hread⟩
  · rw [hstream]
    rcases h.ending with ⟨hrest, hlast, hend, hfinish⟩ | ⟨hrest, hgap, error, hend, hfault, hat⟩
    · rw [hbefore] at hend hfinish
      refine .inl ⟨hrest, hlast, hend, ?_⟩
      intro n hn
      cases n with
      | zero => simp at hn
      | succ n => exact (hfound n).trans (hfinish n (Nat.le_of_succ_le_succ hn))
    · refine .inr ⟨hrest, hgap, error, hend, (hfound _).trans hfault, ?_⟩
      simpa [Lexeme.source_cons] using hat

end Tiled

theorem Cursor.exists_tiled (cursor : Cursor) {before : Text}
    (hplace : cursor.place = .behind before) :
    ∃ lexemes last rest, Tiled cursor before lexemes last rest := by
  have hfinds := cursor.next_finds
  fun_induction TokenStream.ofCursor cursor generalizing before with
  | case1 cursor place hnext =>
    rw [hnext] at hfinds
    cases hfinds with
    | finish hgap => exact ⟨_, _, _, .finish hplace hgap hnext⟩
  | case2 cursor error hnext =>
    rw [hnext] at hfinds
    cases hfinds with
    | fault fault htext hgap hrest => exact ⟨_, _, _, .fault hplace htext hgap hrest hnext⟩
  | case3 cursor token place after hnext ih =>
    rw [hnext] at hfinds
    cases hfinds with
    | read lexeme htext =>
      have hafter : ((cursor.place.after lexeme.gap).after lexeme.spelling) =
          .behind (before ++ lexeme.gap ++ lexeme.spelling) := by
        rw [hplace, Position.after_behind, Position.after_behind]
      obtain ⟨lexemes, last, rest, h⟩ := ih hafter (Cursor.next_finds _)
      exact ⟨_, _, _, .cons hplace htext hnext h⟩

theorem TokenStream.exists_spelledBy {script : Text} {token : Token}
    (h : token ∈ (ofScript script).tokens) : ∃ spelling, token.SpelledBy spelling := by
  obtain ⟨lexemes, last, rest, htiled⟩ : ∃ lexemes last rest,
      Tiled (.ofScript script) [] lexemes last rest := Cursor.exists_tiled _ rfl
  have htokens : (ofScript script).tokens = lexemes.map Lexeme.token := by
    rw [← map_fst_placed, ofScript, htiled.placed]
    apply List.ext_getElem <;> simp
  rw [htokens] at h
  obtain ⟨lexeme, -, rfl⟩ := List.mem_map.mp h
  exact ⟨_, lexeme.spelled⟩

/-- A script is its spelled tokens with gaps around them, each at the place that
its text has in the script, up to the end or to the first text that does not
read; and reading on behind the end finds the end again. -/
theorem TokenStream.ofScript_tiled (script : Text) :
    ∃ lexemes last rest, Tiled (.ofScript script) [] lexemes last rest :=
  Cursor.exists_tiled _ rfl

end LineFilter
