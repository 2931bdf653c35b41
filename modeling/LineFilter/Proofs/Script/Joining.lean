import LineFilter.Proofs.Script.Moving
import LineFilter.Proofs.Script.Reprint

/-!
# Scripts joined

Two scripts with a line feed and a semicolon between them mean the rules of the
one and then those of the other. The line feed ends whatever the first script
ends with, be it a comment or a word, and the semicolon does for a rule what the
end of the script did: nothing that could go on goes on with it.
-/

namespace LineFilter

-- ---------------------------------------------------------------------------
-- Where tokens end
-- ---------------------------------------------------------------------------

namespace Token

variable {c d : Char} {cs name rest : Text} {s : Scanned}

theorem head?_dropWhile (p : Char → Bool) (cs : Text) : !(cs.dropWhile p).head?.any p := by
  have h := List.head?_dropWhile_not p cs
  cases hd : (cs.dropWhile p).head? with
  | none => rfl
  | some c => simpa [hd] using h

/-- A column ends before the next character that is no digit. The count of
columns ends anywhere. -/
theorem columnBody_ends (h : columnBody cs = some (name, rest)) :
    name = ['#'] ∨ !rest.head?.any Text.isDigit := by
  unfold columnBody at h
  split at h
  · cases h
    exact .inl rfl
  · split at h
    split at h
    · cases h
    · cases h
      exact .inr (head?_dropWhile _ _)

/-- The induction is on the word with `dated` general, as it is read. -/
theorem splitNumber_ends (dated : Bool) (cs : Text) :
    endsNumber (dated || (splitNumber dated cs).1.contains 'T') (splitNumber dated cs).2 := by
  induction cs generalizing dated with
  | nil => rfl
  | cons c cs ih =>
    rw [splitNumber]
    split
    · rw [dated_cons]
      exact ih _
    · rename_i hc
      simpa [endsNumber] using hc

theorem withEquals_ends {alone joined : Token}
    (ha : ∀ rest, rest.head? ≠ some '=' → alone.endsBefore rest)
    (hj : ∀ rest, joined.endsBefore rest) :
    (withEquals alone joined c cs).token.endsBefore (withEquals alone joined c cs).rest := by
  unfold withEquals
  split
  · exact hj _
  · rename_i hne
    refine ha _ fun h => ?_
    obtain ⟨rest, hrest⟩ := List.head?_eq_some_iff.mp h
    exact hne rest hrest

/-- A token is read as far as it goes. -/
theorem endsBefore_of_scan (h : scan c cs = .ok s) :
    s.token = .column ['%', '#'] ∨ s.token.endsBefore s.rest := by
  unfold scan at h
  split at h
  case h_1 =>
    unfold scanColumn at h
    split at h
    · cases h
    · rename_i hb
      cases h
      exact (columnBody_ends hb).imp (congrArg fun name => column ('%' :: name)) id
  case h_2 | h_3 =>
    obtain ⟨_, -, rfl⟩ := map_eq_ok.mp h
    exact .inr rfl
  case h_4 =>
    unfold scanRegex at h
    split at h <;> cases h
    exact .inr rfl
  case h_5 | h_6 | h_7 =>
    cases h
    exact .inr (withEquals_ends (fun _ h => decide_eq_true h) fun _ => rfl)
  case h_8 =>
    unfold scanEquals at h
    split at h <;> cases h
    exact .inr rfl
  case h_18 =>
    unfold scanWord at h
    split at h
    · rename_i hn
      cases h
      have hends := splitNumber_ends false cs
      rw [Bool.false_or] at hends
      refine .inr ?_
      rwa [endsBefore, List.contains_cons, ne_T_of_beginsNumber hn]
    · split at h <;> cases h
      exact .inr (head?_dropWhile _ _)
  all_goals
    cases h
    exact .inr rfl

/-- What ends a token before a text ends it also before more text. -/
theorem endsBefore_append {token : Token} (h : token.endsBefore rest) (hd : EndsAll d)
    (more : Text) :
    token.endsBefore (rest ++ d :: more) := by
  cases rest with
  | nil => exact endsBefore_of_endsAll hd more token
  | cons c cs =>
    cases token with
    | number word =>
      simp only [endsBefore, endsNumber, List.cons_append, Bool.not_eq_true',
        Bool.eq_false_iff] at h ⊢
      refine fun hc => h (continuesNumber_of_head hc ?_)
      cases cs <;> simp [hd.1]
    | operator op => cases op <;> exact h
    | mark m => cases m <;> exact h
    | _ => exact h

/-- A token is read the same when a text follows that ends every token. -/
theorem scan_before (h : scan c cs = .ok s) (hd : EndsAll d) (more : Text) :
    scan c (cs ++ d :: more) = .ok ⟨s.token, s.spelling, s.rest ++ d :: more⟩ := by
  have hspelled := spelledBy_of_scan h
  obtain ⟨w, hw, hcs⟩ := scan_covers h
  rcases endsBefore_of_scan h with hcount | hends
  · rw [hcount] at hspelled ⊢
    generalize hs : s.spelling = spelling at hspelled hw ⊢
    cases hspelled
    obtain ⟨rfl, rfl⟩ := List.cons.inj hw
    rw [← hcs]
    rfl
  · obtain ⟨c', w', hw', -, -, hscan⟩ := hspelled.reads
    obtain ⟨rfl, rfl⟩ := List.cons.inj (hw.symm.trans hw')
    rw [← hcs, List.append_assoc]
    exact hscan _ (endsBefore_append hends hd more)

end Token

/-- A line feed ends the last comment. -/
theorem IsLastGap.lineFeed {gap : Text} (h : IsLastGap gap) : IsGap (gap ++ ['\n']) := by
  have hline : IsGap ['\n'] := .blank (by decide) .nil
  cases h with
  | closed h => exact h.append hline
  | @comment gap body h hbody => simpa using h.append (.comment hbody .nil)

namespace Cursor

/-- The cursor with a line feed and more text behind its own. -/
def upTo (cursor : Cursor) (more : Text) : Cursor :=
  { cursor with rest := cursor.rest ++ '\n' :: more }

theorem next_upTo {cursor after : Cursor} {token : Token} {place : Position}
    (h : cursor.next = .read token place after) (more : Text) :
    (cursor.upTo more).next = .read token place (after.upTo more) := by
  obtain ⟨gap, rest, hg⟩ : ∃ gap rest, Text.splitGap false cursor.rest = (gap, rest) := ⟨_, _, rfl⟩
  have hsplit := Text.splitGap_append false cursor.rest
  have hgap := (Text.isGap_splitGap cursor.rest).2
  rw [hg] at hsplit hgap
  simp only [next, skipGap, hg] at h
  cases rest with
  | nil => cases h
  | cons c cs =>
    cases hs : Token.scan c cs with
    | error fault => simp [hs] at h
    | ok s =>
      simp only [hs] at h
      cases h
      obtain ⟨c', _, hw', hsharp, hblank, -⟩ := (Token.spelledBy_of_scan hs).reads
      obtain ⟨_, hw, -⟩ := Token.scan_covers hs
      obtain ⟨rfl, -⟩ := List.cons.inj (hw.symm.trans hw')
      have hline : Token.EndsAll '\n' := Token.endsAll_of_gap (.inl (by decide))
      rw [upTo, ← hsplit, List.append_assoc, List.cons_append, next,
        skipGap_of_isGap (hgap (List.cons_ne_nil c cs)), skipGap_of_head hblank hsharp]
      simp only [Token.scan_before hs hline, upTo]

theorem after_upTo {cursor after : Cursor} {token : Token} {place : Position}
    (h : cursor.next = .read token place after) (text : Text) :
    after.place.after (after.rest ++ text) = cursor.place.after (cursor.rest ++ text) := by
  have hfinds := cursor.next_finds
  rw [h] at hfinds
  cases hfinds with
  | read lexeme htext => simp only [htext, List.append_assoc, Position.after_append]

end Cursor

namespace TokenStream

variable {cursor : Cursor} {tokens : List Grammar.Placed} {last : Position}

/-- A text that reads to its end reads the same in front of a line feed. -/
theorem ofCursor_upTo (h : ofCursor cursor = (finish last).behind tokens) (more : Text) :
    ofCursor (cursor.upTo more) =
      (ofCursor ⟨more, cursor.place.after (cursor.rest ++ ['\n'])⟩).behind tokens := by
  fun_induction ofCursor cursor generalizing tokens with
  | case1 cursor place hnext =>
    cases tokens with
    | cons => cases h
    | nil =>
      have hfinds := cursor.next_finds
      rw [hnext] at hfinds
      cases hfinds with
      | finish hgap =>
        have hrest : cursor.rest ++ '\n' :: more = (cursor.rest ++ ['\n']) ++ more := by simp
        rw [Cursor.upTo, hrest, ofCursor_gap hgap.lineFeed]
        rfl
  | case2 => cases tokens <;> cases h
  | case3 cursor token place after hnext ih =>
    cases tokens with
    | nil => cases h
    | cons first tokens =>
      obtain ⟨rfl, rfl, hafter⟩ := TokenStream.cons.inj h
      rw [ofCursor_read (Cursor.next_upTo hnext more), ih hafter, Cursor.after_upTo hnext]
      rfl

/-- The tokens of joined scripts are those of the first, a semicolon, and those
of the second where they stand now. -/
theorem ofScript_lineFeed {left right : Text} {rest : List Grammar.Placed} {last' : Position}
    (h : ofScript left = (finish last).behind tokens)
    (h' : ofScript right = (finish last').behind rest) :
    ofScript (left ++ "\n;".toList ++ right) =
      (finish (Position.shift (left ++ "\n;".toList) last')).behind
        (tokens ++ (.mark .semicolon, Position.start.after (left ++ ['\n'])) ::
          Grammar.moved (Position.shift (left ++ "\n;".toList)) rest) := by
  have hstart : (Position.start.after (left ++ ['\n'])).after [';'] =
      Position.shift (left ++ "\n;".toList) .start := by
    rw [← Position.after_append, Position.shift_start, List.append_assoc]
    exact Position.after_behind [] _
  have hsemicolon : (Token.mark .semicolon).SpelledBy [';'] := .mark .semicolon
  calc ofScript (left ++ "\n;".toList ++ right)
    _ = ofCursor ((Cursor.ofScript left).upTo ([';'] ++ right)) := by
      simp [ofScript, Cursor.ofScript, Cursor.upTo]
    _ = (ofCursor ⟨[';'] ++ right, Position.start.after (left ++ ['\n'])⟩).behind tokens :=
      ofCursor_upTo h _
    _ = (TokenStream.cons (.mark .semicolon) (Position.start.after (left ++ ['\n']))
          (ofCursor ((Cursor.ofScript right).moved
            (Position.shift (left ++ "\n;".toList))))).behind tokens := by
      rw [ofCursor_spelled hsemicolon rfl, hstart]
      rfl
    _ = _ := by
      rw [ofCursor_moved (movesFrom_shift _), ← TokenStream.ofScript, h', Grammar.moved_behind,
        behind_append, behind_cons]
      rfl

end TokenStream

-- ---------------------------------------------------------------------------
-- In front of a semicolon
-- ---------------------------------------------------------------------------

namespace Grammar

variable {clock : Clock} {tokens rest gap : List Placed} {next after : Option Token} {e : Expr}

theorem IsSelection.before (h : IsSelection clock tokens next e) (ha : Closes after) :
    IsSelection clock tokens after e := by
  induction h generalizing after with
  | not _ ih => exact .not (ih ha)
  | parentheses _ ih => exact .parentheses (ih (closes_mark (by decide)))
  | againstLine ho => exact .againstLine (ho.before ha.2)
  | pattern hv _ => exact .pattern hv ha.1
  | comparison hl hr _ => exact .comparison hl (hr.before ha.2) ha.1
  | range hl hm hr => exact .range hl hm (hr.before ha.2)

theorem IsRule.before_semicolon {rule : Rule} (h : IsRule clock tokens next rule) :
    IsRule clock tokens (some (.mark .semicolon)) rule := by
  cases h with
  | block hb => exact .block hb
  | selection hs _ => exact .selection (hs.before (closes_mark (by decide))) (by simp)
  | both hs hb => exact .both hs hb

theorem Semicolons.append (h : Semicolons gap) (h' : Semicolons rest) :
    Semicolons (gap ++ rest) := by
  intro token ht
  exact (List.mem_append.mp ht).elim (h token) (h' token)

theorem Semicolons.first (h : Semicolons gap) (hg : gap ≠ []) (rest : List Placed) :
    first (gap ++ rest) = some (.mark .semicolon) := by
  obtain ⟨token, gap, rfl⟩ := List.exists_cons_of_ne_nil hg
  exact congrArg some (h token List.mem_cons_self)

/-- Rules with semicolons and more rules behind them, whatever stood behind them
before. -/
theorem IsRules.joined {rules others : Program} {front : List Placed}
    (h : IsRules clock tokens rules) (hf : Semicolons front) (hgap : Semicolons gap)
    (hg : gap ≠ []) (ho : IsRules clock rest others) :
    IsProgram clock (front ++ (tokens ++ (gap ++ rest))) (rules ++ others) := by
  induction h generalizing front with
  | none => simpa using IsProgram.rules (hf.append hgap) ho
  | @more ours gap' theirs rule rules hr hgap' _ ih =>
    have hrest := ih hgap'
    have hrule : IsRule clock ours (first (gap' ++ (theirs ++ (gap ++ rest)))) rule := by
      -- Either the next rule or its gap still follows, or the semicolon does now.
      cases hnext : gap' ++ theirs with
      | nil =>
        obtain ⟨rfl, rfl⟩ := List.append_eq_nil_iff.mp hnext
        rw [List.nil_append, List.nil_append, hgap.first hg]
        exact hr.before_semicolon
      | cons token more =>
        rw [hnext] at hr
        rw [← List.append_assoc, hnext]
        exact hr
    rw [List.append_assoc, List.append_assoc]
    generalize gap' ++ (theirs ++ (gap ++ rest)) = behind at hrest hrule ⊢
    cases hrest with
    | rules hgap'' hrest => exact .rules hf (.more hrule hgap'' hrest)

theorem IsProgram.joined {program others : Program} {place : Position}
    (h : IsProgram clock tokens program) (ho : IsProgram clock rest others) :
    IsProgram clock (tokens ++ (.mark .semicolon, place) :: rest) (program ++ others) := by
  cases h with
  | rules hf hr =>
    cases ho with
    | @rules gap rest _ hgap ho =>
      have hgap : Semicolons ((.mark .semicolon, place) :: gap) := by
        rintro token (_ | ⟨_, ht⟩)
        · rfl
        · exact hgap token ht
      simpa using hr.joined hf hgap (List.cons_ne_nil _ _) ho

end Grammar

namespace Program

/-- A program that stands in its script behind a text. -/
def behind (before : Text) (program : Program) : Program := program.moved (Position.shift before)

/-- Scripts with a line feed and a semicolon between them mean the rules of both,
one after the other. Only the places of the commands of the second are new:
they are those that its text has now. -/
theorem ofScript_joined {clock : Clock} {left right : Text} {program others : Program}
    (h : ofScript clock left = .ok program) (ho : ofScript clock right = .ok others) :
    ofScript clock (left ++ "\n;".toList ++ right) =
        .ok (program ++ others.behind (left ++ "\n;".toList)) ∧
      (others.behind (left ++ "\n;".toList)).withoutPlaces = others.withoutPlaces := by
  refine ⟨?_, withoutPlaces_moved _ others⟩
  obtain ⟨tokens, _, hleft, ht⟩ := read_sound h
  obtain ⟨rest, _, hright, hr⟩ := read_sound ho
  rw [ofScript, TokenStream.ofScript_lineFeed hleft hright]
  exact read_complete (ht.joined (hr.moved (Position.shift_implied _))) _

/-- A comparison that ends in a comment, and a shorthand that could carry it on. -/
theorem ofScript_joined_shorthand :
    ∃ program others, ofScript ⟨0, 0, .utc⟩ "%1 < 5 # last".toList = .ok program ∧
      ofScript ⟨0, 0, .utc⟩ "< 7 \x7ba()\x7d".toList = .ok others ∧
      ofScript ⟨0, 0, .utc⟩ "%1 < 5 # last\n;< 7 \x7ba()\x7d".toList =
        .ok (program ++ others.behind "%1 < 5 # last\n;".toList) ∧
      (others.behind "%1 < 5 # last\n;".toList).withoutPlaces = others.withoutPlaces := by
  have hl : (ofScript ⟨0, 0, .utc⟩ "%1 < 5 # last".toList).isOk := by decide +kernel
  have hr : (ofScript ⟨0, 0, .utc⟩ "< 7 \x7ba()\x7d".toList).isOk := by decide +kernel
  cases hp : ofScript ⟨0, 0, .utc⟩ "%1 < 5 # last".toList with
  | error cause => cases hp ▸ hl
  | ok program =>
    cases ho : ofScript ⟨0, 0, .utc⟩ "< 7 \x7ba()\x7d".toList with
    | error cause => cases ho ▸ hr
    | ok others => exact ⟨program, others, rfl, rfl, ofScript_joined hp ho⟩

end Program

end LineFilter
