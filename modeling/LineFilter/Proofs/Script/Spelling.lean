import LineFilter.Proofs.Script.Lexeme
import LineFilter.Proofs.Script.Stream
import LineFilter.Proofs.Text.Gap

/-!
# Spelled tokens

A text spells some tokens if reading it gives these tokens, and nothing of what
follows, in front of every text that it may stand before. Texts with that
property are put together one behind the other.
-/

namespace LineFilter

open Grammar (Placed)

-- ---------------------------------------------------------------------------
-- What a cursor finds
-- ---------------------------------------------------------------------------

namespace Cursor

theorem skipGap_of_isGap {gap : Text} (h : IsGap gap) (rest : Text) (place : Position) :
    skipGap ⟨gap ++ rest, place⟩ = skipGap ⟨rest, place.after gap⟩ := by
  simp [skipGap, Text.splitGap_append_of_isGap h, Position.after_append]

theorem skipGap_of_head {c : Char} (hb : isBlank c = false) (hc : c ≠ '#') (rest : Text)
    (place : Position) : skipGap ⟨c :: rest, place⟩ = ⟨c :: rest, place⟩ := by
  simp [skipGap, Text.splitGap_of_head hb hc]

/-- A token that a cursor finds is printed as it was read, or is a pattern with a
slash. -/
theorem prints_of_next {cursor after : Cursor} {token : Token} {place : Position}
    (h : cursor.next = .read token place after) (hp : token.Plain) : token.Prints := by
  simp only [next] at h
  split at h
  · cases h
  · split at h
    · cases h
    · rename_i hs
      cases h
      exact Token.prints_of_scan hs hp

end Cursor

namespace TokenStream

open Cursor

variable {cursor after : Cursor} {token : Token} {place : Position} {error : LexError}

theorem ofCursor_read (h : cursor.next = .read token place after) :
    ofCursor cursor = .cons token place (ofCursor after) := by
  rw [ofCursor]
  split <;> simp_all

theorem ofCursor_finish (h : cursor.next = .finish place) : ofCursor cursor = .finish place := by
  rw [ofCursor]
  split <;> simp_all

theorem ofCursor_fault (h : cursor.next = .fault error) : ofCursor cursor = .fault error := by
  rw [ofCursor]
  split <;> simp_all

theorem ofCursor_congr {cursor' : Cursor} (h : cursor.next = cursor'.next) :
    ofCursor cursor = ofCursor cursor' := by
  cases hn : cursor'.next with
  | finish => rw [ofCursor_finish (h.trans hn), ofCursor_finish hn]
  | fault => rw [ofCursor_fault (h.trans hn), ofCursor_fault hn]
  | read => rw [ofCursor_read (h.trans hn), ofCursor_read hn]

theorem ofCursor_gap {gap : Text} (h : IsGap gap) (rest : Text) (place : Position) :
    ofCursor ⟨gap ++ rest, place⟩ = ofCursor ⟨rest, place.after gap⟩ := by
  refine ofCursor_congr ?_
  rw [next, next, skipGap_of_isGap h]

theorem ofCursor_scan {c : Char} {cs rest : Text} (hc : c ≠ '#') (hb : isBlank c = false)
    (hs : Token.scan c (cs ++ rest) = .ok ⟨token, c :: cs, rest⟩) (place : Position) :
    ofCursor ⟨c :: (cs ++ rest), place⟩ =
      .cons token place (ofCursor ⟨rest, place.after (c :: cs)⟩) := by
  refine ofCursor_read ?_
  rw [next, skipGap_of_head hb hc]
  simp only [hs]

/-- A spelled token is read in front of what does not carry it on. -/
theorem ofCursor_spelled {spelling : Text} (h : token.SpelledBy spelling) {rest : Text}
    (hr : token.endsBefore rest) (place : Position) :
    ofCursor ⟨spelling ++ rest, place⟩ =
      .cons token place (ofCursor ⟨rest, place.after spelling⟩) := by
  obtain ⟨c, cs, rfl, hc, hb, hs⟩ := h.reads
  exact ofCursor_scan hc hb (hs rest hr) place

/-- A printed token is read in front of what does not carry it on. -/
theorem ofCursor_token (h : token.Prints) {rest : Text} (hr : token.endsBefore rest)
    (place : Position) :
    ofCursor ⟨token.written ++ rest, place⟩ =
      .cons token place (ofCursor ⟨rest, place.after token.written⟩) := by
  obtain ⟨c, hc, hb, cs, hw, hs⟩ := h
  rw [hw] at hs ⊢
  exact ofCursor_scan hc hb (hs rest hr) place

theorem prints_of_mem_ofCursor {t : Placed} (ht : t ∈ (ofCursor cursor).placed)
    (hp : t.1.Plain) : t.1.Prints := by
  fun_induction ofCursor cursor with
  | case1 => simp [placed] at ht
  | case2 => simp [placed] at ht
  | case3 cursor token place after hn ih =>
    rcases List.mem_cons.mp ht with rfl | ht
    · exact prints_of_next hn hp
    · exact ih ht

end TokenStream

-- ---------------------------------------------------------------------------
-- Texts put together
-- ---------------------------------------------------------------------------

/-- The text begins with a character that ends every token. -/
def Delimited (rest : Text) : Prop := ∃ c ∈ [' ', ',', '(', ')', '['], rest.head? = some c

theorem delimited_cons {c : Char} (hc : c ∈ [' ', ',', '(', ')', '[']) (rest : Text) :
    Delimited (c :: rest) := ⟨c, hc, rfl⟩

theorem endsBefore_of_delimited {rest : Text} (h : Delimited rest) (token : Token) :
    token.endsBefore rest := by
  obtain ⟨c, hc, hrest⟩ := h
  obtain ⟨rest, rfl⟩ := List.head?_eq_some_iff.mp hrest
  have hends : Token.EndsAll c := by
    simp only [List.mem_cons, List.not_mem_nil, or_false] at hc
    unfold Token.EndsAll
    rcases hc with rfl | rfl | rfl | rfl | rfl <;> decide
  exact Token.endsBefore_of_endsAll hends rest token

/-- Wherever it stands, the text gives tokens of some kind in front of all that
has the property `ends`. -/
def Spells (ends : Text → Prop) (text : Text) (kind : List Placed → Prop) : Prop :=
  ∀ place, ∃ tokens, kind tokens ∧ ∀ rest, ends rest →
    TokenStream.ofCursor ⟨text ++ rest, place⟩ =
      (TokenStream.ofCursor ⟨rest, place.after text⟩).behind tokens

/-- What may stand behind marks: everything. -/
def Anything (_ : Text) : Prop := True

namespace Spells

variable {ends ends' : Text → Prop} {text left right : Text} {P Q : List Placed → Prop}

theorem imp (h : Spells ends text P) (hpq : ∀ tokens, P tokens → Q tokens) :
    Spells ends text Q := by
  intro place
  obtain ⟨tokens, hp, hspells⟩ := h place
  exact ⟨tokens, hpq tokens hp, hspells⟩

theorem before (h : Spells ends text P) (he : ∀ rest, ends' rest → ends rest) :
    Spells ends' text P := by
  intro place
  obtain ⟨tokens, hp, hspells⟩ := h place
  exact ⟨tokens, hp, fun rest hr => hspells rest (he rest hr)⟩

theorem nil : Spells ends [] (· = []) := fun _ => ⟨[], rfl, fun _ _ => rfl⟩

theorem append (hl : Spells ends left P) (hr : Spells ends' right Q)
    (he : ∀ rest, ends' rest → ends (right ++ rest)) :
    Spells ends' (left ++ right) fun tokens => ∃ ls rs, tokens = ls ++ rs ∧ P ls ∧ Q rs := by
  intro place
  obtain ⟨ls, hp, hls⟩ := hl place
  obtain ⟨rs, hq, hrs⟩ := hr (place.after left)
  refine ⟨ls ++ rs, ⟨ls, rs, rfl, hp, hq⟩, ?_⟩
  intro rest h
  rw [List.append_assoc, hls _ (he rest h), hrs rest h, Position.after_append,
    TokenStream.behind_append]

/-- A text whose tokens end in front of every delimiter, and a text behind it that
begins with one. -/
theorem followed {c : Char} (hl : Spells Delimited left P) (hc : c ∈ [' ', ',', '(', ')', '['])
    (hr : Spells ends (c :: right) Q) :
    Spells ends (left ++ c :: right) fun tokens => ∃ ls rs, tokens = ls ++ rs ∧ P ls ∧ Q rs :=
  hl.append hr fun _ _ => delimited_cons hc _

theorem gap {gap : Text} (hg : IsGap gap) (h : Spells ends text P) :
    Spells ends (gap ++ text) P := by
  intro place
  obtain ⟨tokens, hp, hspells⟩ := h (place.after gap)
  refine ⟨tokens, hp, ?_⟩
  intro rest hr
  rw [List.append_assoc, TokenStream.ofCursor_gap hg, Position.after_append]
  exact hspells rest hr

theorem space (h : Spells ends text P) : Spells ends (' ' :: text) P :=
  h.gap (.blank (by decide) .nil)

theorem lineFeed (h : Spells ends text P) : Spells ends ('\n' :: text) P :=
  h.gap (.blank (by decide) .nil)

theorem token {t : Token} (h : t.Prints) :
    Spells (t.endsBefore ·) t.written fun tokens => ∃ p, tokens = [(t, p)] := by
  intro place
  refine ⟨[(t, place)], ⟨place, rfl⟩, ?_⟩
  intro rest hr
  exact TokenStream.ofCursor_token h hr place

theorem word {t : Token} (h : t.Prints) :
    Spells Delimited t.written fun tokens => ∃ p, tokens = [(t, p)] :=
  (token h).before fun _ hr => endsBefore_of_delimited hr t

/-- Nothing carries a mark on, but for a `!`. -/
theorem mark (m : Mark) (hm : m ≠ .bang) (h : Spells ends text P) :
    Spells ends (m.symbol :: text) fun tokens => ∃ p ts, tokens = (.mark m, p) :: ts ∧ P ts := by
  refine ((token (Token.prints_mark m)).append h ?_).imp ?_
  · intro rest _
    cases m <;> first | rfl | exact absurd rfl hm
  · rintro _ ⟨_, ts, rfl, ⟨p, rfl⟩, hp⟩
    exact ⟨p, ts, rfl, hp⟩

theorem closing (m : Mark) (hm : m ≠ .bang) :
    Spells ends [m.symbol] fun tokens => ∃ p, tokens = [(.mark m, p)] := by
  refine (mark m hm .nil).imp ?_
  rintro _ ⟨p, _, rfl, rfl⟩
  exact ⟨p, rfl⟩

theorem parentheses (h : Spells Delimited text P) :
    Spells ends ('(' :: (text ++ [')'])) fun tokens =>
      ∃ p ts q, tokens = (.mark .openParen, p) :: (ts ++ [(.mark .closeParen, q)]) ∧ P ts := by
  have hclose : Spells ends [')'] _ := closing .closeParen (by decide)
  have hopen : Spells ends ('(' :: _) _ := mark .openParen (by decide) (h.followed (by simp) hclose)
  refine hopen.imp ?_
  rintro _ ⟨p, _, rfl, ts, _, rfl, hp, q, rfl⟩
  exact ⟨p, ts, q, rfl, hp⟩

/-- An operator between two texts, with a space on either side. -/
theorem operation (hl : Spells Delimited left P) (op : Operator) (hr : Spells Delimited right Q) :
    Spells Delimited (left ++ ' ' :: (op.symbol ++ ' ' :: right)) fun tokens =>
      ∃ ls p rs, tokens = ls ++ (.operator op, p) :: rs ∧ P ls ∧ Q rs := by
  have hop := (word (Token.prints_operator op)).followed (by simp) hr.space
  refine (hl.followed (by simp) hop.space).imp ?_
  rintro _ ⟨ls, _, rfl, hp, _, rs, rfl, ⟨p, rfl⟩, hq⟩
  exact ⟨ls, p, rs, rfl, hp, hq⟩

end Spells

end LineFilter
