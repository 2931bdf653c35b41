import LineFilter.Proofs.Script.Sound

/-!
# Readers accept the whole grammar

A reader takes a phrase of the grammar off any stream that goes on as the
phrase demands. The rest has to begin with a token or to be the end, since a
reader looks one token ahead.
-/

namespace LineFilter

open Grammar TokenStream

variable {clock : Clock} {rest : TokenStream} {tokens : List Placed} {next : Option Token}
  {e : Expr}

theorem Value.ofPattern_eq_ok {source : Text} {v : Value} :
    ofPattern source = .ok v ↔ ∃ p, Pattern.ofSource? source = some p ∧ v = .regexp p := by
  unfold ofPattern
  cases h : Pattern.ofSource? source with
  | none => simp
  | some p => simp [eq_comm]

namespace Expr

-- ---------------------------------------------------------------------------
-- Operands
-- ---------------------------------------------------------------------------

theorem readBound_complete {bound : Option Int} {mark : Mark} {place : Position}
    (h : IsBound tokens bound) :
    readBound ((cons (.mark mark) place rest).behind tokens) =
      .ok (bound, .cons (.mark mark) place rest) := by
  cases h with
  | absent => rfl
  | present hn => simp [readBound, hn, reads_cons.ready, bind, Except.bind, pure, Except.pure]

theorem readSlice_complete {operand : Expr} {starts stops : List Placed} {start stop : Option Int}
    (p : Position) {q r : Position} (hstarts : IsBound starts start) (hstops : IsBound stops stop)
    (hr : rest.Reads) :
    readSlice operand (.cons (.mark .openBracket) p (rest.behind
      (starts ++ (.mark .colon, q) :: (stops ++ [(.mark .closeBracket, r)])))) =
      .ok (.slice operand start stop, rest) := by
  simp only [readSlice, behind_append, behind_cons, behind_nil, bind_eq_ok, pure_eq_ok]
  refine ⟨_, (reads_cons.behind _).ready, (start, _), readBound_complete hstarts, ?_⟩
  refine ⟨_, expect_eq_ok.mpr ⟨q, rfl, reads_cons.behind _⟩, (stop, _),
    readBound_complete hstops, ?_⟩
  exact ⟨rest, expect_eq_ok.mpr ⟨r, rfl, hr⟩, rfl⟩

theorem readSlice_absent {operand : Expr} (hr : rest.Reads)
    (hn : rest.head? ≠ some (.mark .openBracket)) :
    readSlice operand rest = .ok (operand, rest) := by
  unfold readSlice
  split
  · exact absurd rfl hn
  · simp [hr.ready, bind, Except.bind, pure, Except.pure]

theorem readOperand_complete (h : IsOperand clock tokens next e) (hn : rest.head? = next)
    (hr : rest.Reads) : readOperand clock (rest.behind tokens) = .ok (e, rest) := by
  cases h with
  | literal hl =>
    cases hl with
    | string => simp [readOperand, readLiteral, hr.ready, bind, Except.bind]
    | pattern hv => simp [readOperand, readLiteral, hr.ready, hv, bind, Except.bind]
    | number hv => simp [readOperand, readLiteral, hr.ready, hv, bind, Except.bind]
  | reference hv hb =>
    cases hv with
    | column => exact readSlice_absent hr (hn ▸ hb)
    | name => exact readSlice_absent hr (hn ▸ hb)
  | @slice _ _ _ _ _ _ _ _ p _ _ hv hstarts hstops =>
    cases hv with
    | column => exact readSlice_complete p hstarts hstops hr
    | name => exact readSlice_complete p hstarts hstops hr

-- ---------------------------------------------------------------------------
-- Selections and parameters
-- ---------------------------------------------------------------------------

theorem readOperand_before_operator {op : Operator}
    (h : IsOperand clock tokens (some (.operator op)) e) (place : Position) (rest : TokenStream) :
    readOperand clock ((cons (.operator op) place rest).behind tokens) =
      .ok (e, .cons (.operator op) place rest) :=
  readOperand_complete h rfl reads_cons

section
variable {stream after : TokenStream} {left middle right : Expr} {op : Operator} {p q : Position}

theorem readComparison_pattern {pattern : Pattern}
    (hl : readOperand clock stream = .ok (.value (.regexp pattern), rest))
    (hc : ¬ Compares rest.head?) :
    readComparison clock stream = .ok (.againstLine .equal (.value (.regexp pattern)), rest) := by
  simp only [readComparison, bind_eq_ok]
  refine ⟨_, hl, ?_⟩
  dsimp only
  split
  · exact absurd ⟨_, rfl⟩ hc
  · rfl

theorem readComparison_compare
    (hl : readOperand clock stream = .ok (left, .cons (.operator op) p after))
    (hm : readOperand clock after = .ok (middle, rest)) (hc : ¬ Compares rest.head?) :
    readComparison clock stream = .ok (.compare left op middle, rest) := by
  simp only [readComparison, bind_eq_ok]
  refine ⟨_, hl, ?_⟩
  simp only [bind_eq_ok]
  refine ⟨_, hm, ?_⟩
  dsimp only
  split
  · exact absurd ⟨_, rfl⟩ hc
  · rfl

theorem readComparison_range {op' : Operator} {last : TokenStream}
    (hl : readOperand clock stream = .ok (left, .cons (.operator op) p after))
    (hm : readOperand clock after = .ok (middle, .cons (.operator op') q last))
    (hu : readOperand clock last = .ok (right, rest))
    (he : Comparison.range ⟨left, op, middle⟩ ⟨middle, op', right⟩ = .ok e) :
    readComparison clock stream = .ok (e, rest) := by
  simp only [readComparison, bind_eq_ok]
  refine ⟨_, hl, ?_⟩
  simp only [bind_eq_ok]
  refine ⟨_, hm, ?_⟩
  simp only [bind_eq_ok]
  refine ⟨_, hu, ?_⟩
  simp only [he]

/-- Where an operand reads, no other kind of selection begins. -/
theorem readSelection_of_readOperand (h : readOperand clock stream = .ok (left, after)) :
    readSelection clock stream = readComparison clock stream := by
  unfold readSelection
  split
  · cases h
  · cases h
  · cases h
  · rfl

end

theorem readSelection_complete (h : IsSelection clock tokens next e) (hn : rest.head? = next)
    (hr : rest.Reads) : readSelection clock (rest.behind tokens) = .ok (e, rest) := by
  induction h generalizing rest with
  | not _ ih =>
    simp [readSelection, ih hn hr, bind, Except.bind, pure, Except.pure]
  | parentheses _ ih =>
    simp only [behind_cons, behind_append, readSelection, bind_eq_ok, pure_eq_ok, behind_nil]
    exact ⟨_, ih rfl reads_cons, rest, expect_eq_ok.mpr ⟨_, rfl, hr⟩, rfl⟩
  | againstLine ho =>
    simp [readSelection, readOperand_complete ho hn hr, bind, Except.bind, pure, Except.pure]
  | @pattern source v next p hv hc =>
    have ho : IsOperand clock [(.regex source, p)] next (.value v) := .literal (.pattern hv)
    have hleft := readOperand_complete ho hn hr
    obtain ⟨pattern, -, rfl⟩ := Value.ofPattern_eq_ok.mp hv
    rw [readSelection_of_readOperand hleft]
    exact readComparison_pattern hleft (hn ▸ hc)
  | @comparison lefts rights next left op right p hl hm hc =>
    have hleft := readOperand_before_operator hl p (rest.behind rights)
    rw [behind_append, behind_cons, readSelection_of_readOperand hleft]
    exact readComparison_compare hleft (readOperand_complete hm hn hr) (hn ▸ hc)
  | @range lefts middles rights next left middle right slope lower upper p q hl hm hu =>
    have hleft := readOperand_before_operator hl p
      (rest.behind (middles ++ (.operator (slope.operator upper), q) :: rights))
    rw [behind_append, behind_cons, readSelection_of_readOperand hleft]
    rw [behind_append, behind_cons] at hleft ⊢
    exact readComparison_range hleft (readOperand_before_operator hm q _)
      (readOperand_complete hu hn hr) (Comparison.range_eq_ok.mpr ⟨_, _, _, rfl, rfl, rfl⟩)

theorem readParam_complete (h : IsParam clock tokens next e) (hn : rest.head? = next)
    (hr : rest.Reads) : readParam clock (rest.behind tokens) = .ok (e, rest) := by
  cases h with
  | operand ho hc =>
    simp only [readParam, bind_eq_ok]
    refine ⟨_, readOperand_complete ho hn hr, ?_⟩
    dsimp only
    split
    · exact absurd ⟨_, hn.symm⟩ hc
    · rfl
  | comparison hl hu =>
    simp only [readParam, behind_append, behind_cons, bind_eq_ok]
    refine ⟨_, readOperand_before_operator hl _ _, ?_⟩
    simp only [bind_eq_ok, pure_eq_ok]
    exact ⟨_, readOperand_complete hu hn hr, rfl⟩

end Expr

-- ---------------------------------------------------------------------------
-- Commands, rules and programs
-- ---------------------------------------------------------------------------

theorem TokenStream.skipSemicolons_of_ne (h : rest.head? ≠ some (.mark .semicolon)) :
    rest.skipSemicolons = rest := by
  unfold skipSemicolons
  split
  · exact absurd rfl h
  · rfl

theorem TokenStream.skipSemicolons_behind {gap : List Placed} (hgap : Semicolons gap)
    (h : rest.head? ≠ some (.mark .semicolon)) : (rest.behind gap).skipSemicolons = rest := by
  induction gap with
  | nil => exact skipSemicolons_of_ne h
  | cons token gap ih =>
    obtain ⟨token, place⟩ := token
    obtain rfl : token = .mark .semicolon := hgap _ List.mem_cons_self
    exact ih fun t ht => hgap t (List.mem_cons_of_mem _ ht)

namespace Command

theorem readParams_one {stream : TokenStream} {param : Expr}
    (h : Expr.readParam clock stream = .ok (param, rest))
    (hn : rest.head? ≠ some (.mark .comma)) : readParams clock stream = .ok ([param], rest) := by
  rw [readParams]
  split
  · simp_all
  · rename_i hp
    obtain ⟨-, rfl⟩ := Prod.mk.inj (Except.ok.inj (h.symm.trans hp))
    exact absurd rfl hn
  · simp_all

theorem readParams_more {stream after : TokenStream} {param : Expr} {params : List Expr}
    {place : Position}
    (h : Expr.readParam clock stream = .ok (param, .cons (.mark .comma) place rest))
    (hm : readParams clock rest = .ok (params, after)) :
    readParams clock stream = .ok (param :: params, after) := by
  rw [readParams]
  split
  · simp_all
  · simp_all [bind, Except.bind, pure, Except.pure]
  · simp_all

theorem readParams_complete {params : List Expr} (h : IsParams clock tokens params)
    (place : Position) :
    readParams clock ((cons (.mark .closeParen) place rest).behind tokens) =
      .ok (params, .cons (.mark .closeParen) place rest) := by
  induction h with
  | one hp => exact readParams_one (Expr.readParam_complete hp rfl reads_cons) (by simp)
  | more hp _ ih =>
    rw [behind_append]
    exact readParams_more (Expr.readParam_complete hp rfl reads_cons) ih

theorem head?_ne_of_readParams {stream : TokenStream} {params : List Expr} (mark : Mark)
    (h : readParams clock stream = .ok (params, rest)) : stream.head? ≠ some (.mark mark) := by
  intro hm
  obtain ⟨place, next, rfl⟩ := eq_cons_of_head? hm
  rw [readParams] at h
  split at h
  · cases h
  · rename_i hp
    cases hp
  · rename_i hp
    cases hp

theorem readCall_complete {params : List Expr} (h : IsParams clock tokens params)
    (hr : rest.Reads) (place : Position) :
    readCall clock (rest.behind (tokens ++ [(.mark .closeParen, place)])) = .ok (params, rest) := by
  have hparams : readParams clock ((cons (.mark .closeParen) place rest).behind tokens) = _ :=
    readParams_complete h place
  rw [behind_append]
  unfold readCall
  split
  · rename_i heq
    exact absurd (congrArg head? heq) (head?_ne_of_readParams _ hparams)
  · simp only [bind_eq_ok, pure_eq_ok]
    exact ⟨_, hparams, rest, expect_eq_ok.mpr ⟨place, rfl, hr⟩, rfl⟩

theorem read_complete {command : Command} (h : IsCommand clock tokens command)
    (hr : rest.Reads) : read clock (rest.behind tokens) = .ok (command, rest) := by
  cases h with
  | bare =>
    simp only [read, behind_cons, bind_eq_ok, pure_eq_ok, behind_nil]
    refine ⟨_, expect_eq_ok.mpr ⟨_, rfl, reads_cons⟩, ([], rest), ?_, rfl⟩
    simp [readCall, hr.ready, bind, Except.bind, pure, Except.pure]
  | @call tokens _ _ _ _ q hp =>
    have hopen : (rest.behind (tokens ++ [(.mark .closeParen, q)])).Reads := by
      simpa using reads_cons.behind tokens
    simp only [read, behind_cons, bind_eq_ok, pure_eq_ok]
    exact ⟨_, expect_eq_ok.mpr ⟨_, rfl, hopen⟩, _, readCall_complete hp hr q, rfl⟩

theorem head?_ne_of_read {stream : TokenStream} {read : Command × TokenStream} (mark : Mark)
    (h : Command.read clock stream = .ok read) : stream.head? ≠ some (.mark mark) := by
  intro hm
  obtain ⟨place, next, rfl⟩ := eq_cons_of_head? hm
  cases h

end Command

namespace Block

theorem readCommands_none {stream : TokenStream} {place : Position}
    (h : stream.skipSemicolons = .cons (.mark .closeBrace) place rest) (hr : rest.Reads) :
    readCommands clock stream = .ok ([], rest) := by
  rw [readCommands]
  split
  · simp_all [hr.ready, bind, Except.bind, pure, Except.pure]
  · simp_all

theorem readCommands_more {stream after : TokenStream} {command : Command} {commands : Block}
    (h : Command.read clock stream.skipSemicolons = .ok (command, rest))
    (hm : readCommands clock rest = .ok (commands, after)) :
    readCommands clock stream = .ok (command :: commands, after) := by
  rw [readCommands]
  split
  · rename_i hs
    rw [hs] at h
    cases h
  · split
    · simp_all
    · simp_all [bind, Except.bind, pure, Except.pure]

theorem readCommands_complete {gap : List Placed} {block : Block} (hgap : Semicolons gap)
    (h : IsCommands clock tokens block) (hr : rest.Reads) (place : Position) :
    readCommands clock (rest.behind (gap ++ (tokens ++ [(.mark .closeBrace, place)]))) =
      .ok (block, rest) := by
  induction h generalizing gap with
  | none =>
    rw [behind_append]
    exact readCommands_none (skipSemicolons_behind hgap nofun) hr
  | @more ours gap' others command commands hc hgap' _ ih =>
    have hafter : (rest.behind (gap' ++ (others ++ [(.mark .closeBrace, place)]))).Reads := by
      simpa using (reads_cons.behind others).behind gap'
    have hcommand := Command.read_complete hc hafter
    have hskip := skipSemicolons_behind hgap (Command.head?_ne_of_read .semicolon hcommand)
    rw [← hskip] at hcommand
    simpa using readCommands_more hcommand (ih hgap')

theorem read_complete {block : Block} (h : IsBlock clock tokens block) (hr : rest.Reads) :
    read clock (rest.behind tokens) = .ok (block, rest) := by
  cases h with
  | braces hgap hc => exact readCommands_complete hgap hc hr _

theorem read_absent (h : rest.head? ≠ some (.mark .openBrace)) :
    read clock rest = .ok (printLine, rest) := by
  unfold read
  split
  · exact absurd rfl h
  · rfl

end Block

namespace Rule

theorem read_of_readSelection {stream : TokenStream} {selection : Expr} {block : Block}
    {after : TokenStream} (h : Expr.readSelection clock stream = .ok (selection, after))
    (hb : Block.read clock after = .ok (block, rest)) :
    read clock stream = .ok (⟨some selection, block⟩, rest) := by
  unfold read
  split
  · cases h
  · simp only [bind_eq_ok, pure_eq_ok]
    exact ⟨_, h, _, hb, rfl⟩

theorem read_complete {rule : Rule} (h : IsRule clock tokens next rule) (hn : rest.head? = next)
    (hr : rest.Reads) : read clock (rest.behind tokens) = .ok (rule, rest) := by
  cases h with
  | block hb =>
    cases hb with
    | braces hgap hc =>
      simp only [read, behind_cons, bind_eq_ok, pure_eq_ok]
      exact ⟨_, Block.readCommands_complete hgap hc hr _, rfl⟩
  | selection hs hbrace =>
    exact read_of_readSelection (Expr.readSelection_complete hs hn hr)
      (Block.read_absent (hn ▸ hbrace))
  | both hs hb =>
    rw [behind_append]
    have hblock := Block.read_complete hb hr
    cases hb with
    | braces => exact read_of_readSelection (Expr.readSelection_complete hs rfl reads_cons) hblock

theorem head?_ne_of_read {stream : TokenStream} {read : Rule × TokenStream}
    (h : Rule.read clock stream = .ok read) : stream.head? ≠ some (.mark .semicolon) := by
  intro hm
  obtain ⟨place, next, rfl⟩ := eq_cons_of_head? hm
  cases h

end Rule

namespace Program

theorem read_none {stream : TokenStream} {place : Position}
    (h : stream.skipSemicolons = .finish place) : read clock stream = .ok [] := by
  rw [read]
  split
  · rfl
  · simp_all

theorem read_more {stream : TokenStream} {rule : Rule} {rules : Program}
    (h : Rule.read clock stream.skipSemicolons = .ok (rule, rest))
    (hm : read clock rest = .ok rules) : read clock stream = .ok (rule :: rules) := by
  rw [read]
  split
  · rename_i hs
    rw [hs] at h
    cases h
  · split
    · simp_all
    · simp_all [bind, Except.bind, pure, Except.pure]

theorem readRules_complete {gap : List Placed} {program : Program} (hgap : Semicolons gap)
    (h : IsRules clock tokens program) (place : Position) :
    read clock ((finish place).behind (gap ++ tokens)) = .ok program := by
  induction h generalizing gap with
  | none =>
    rw [List.append_nil]
    exact read_none (skipSemicolons_behind hgap nofun)
  | @more ours gap' others rule rules hc hgap' _ ih =>
    have hnext : ((finish place).behind (gap' ++ others)).head? = first (gap' ++ others) := by
      rw [head?_behind, head?_finish, Option.or_none]
    have hrule := Rule.read_complete hc hnext (reads_finish.behind _)
    have hskip := skipSemicolons_behind hgap (Rule.head?_ne_of_read hrule)
    rw [← hskip] at hrule
    simpa using read_more hrule (ih hgap')

theorem read_complete {program : Program} (h : IsProgram clock tokens program)
    (place : Position) : read clock ((finish place).behind tokens) = .ok program := by
  cases h with
  | rules hgap hr => exact readRules_complete hgap hr place

end Program

end LineFilter
