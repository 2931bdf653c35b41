import LineFilter.Proofs.Script.Stream

/-!
# Readers keep to the grammar

What a reader takes off a stream is a phrase of the grammar, in front of the
token that the rest begins with, and means what the reader returns. Each lemma
reads one reader's success as the rule that it followed.
-/

namespace LineFilter

open Grammar TokenStream

theorem Value.ofName_ne_regexp (name : Text) (p : Pattern) : ofName name ≠ .regexp p := by
  unfold ofName
  split <;> exact nofun

theorem Value.ofNumber_ne_regexp {clock : Clock} (word : Text) (p : Pattern) :
    ofNumber clock word ≠ .ok (.regexp p) := by
  unfold ofNumber ofInteger ofDecimal ofDate
  grind

/-- The halves of a range in a script share their middle operand, so only the
operators decide. -/
theorem Comparison.range_eq_ok {left middle right e : Expr} {op op' : Operator} :
    range ⟨left, op, middle⟩ ⟨middle, op', right⟩ = .ok e ↔
      ∃ slope lower upper, op = slope.operator lower ∧ op' = slope.operator upper ∧
        e = .between slope left lower middle upper right := by
  constructor
  · intro h
    unfold range at h
    split at h
    · rename_i slope lower slope' upper hlower hupper
      split at h
      · rename_i heq
        simp only [↓reduceIte, Except.ok.injEq] at h
        exact ⟨slope, lower, upper, Operator.eq_operator_of_slope? hlower,
          heq ▸ Operator.eq_operator_of_slope? hupper, h.symm⟩
      · cases h
    · cases h
  · rintro ⟨slope, lower, upper, rfl, rfl, rfl⟩
    simp [range]

theorem Comparison.range_ne_noSharedOperand {left middle right : Expr} {op op' : Operator}
    (lower upper : Comparison) :
    range ⟨left, op, middle⟩ ⟨middle, op', right⟩ ≠ .error (.noSharedOperand lower upper) := by
  unfold range
  split
  · split <;> simp
  · exact nofun

variable {clock : Clock} {stream rest : TokenStream} {e : Expr}

namespace Expr

-- ---------------------------------------------------------------------------
-- Operands
-- ---------------------------------------------------------------------------

theorem readBound_sound {bound : Option Int} (h : readBound stream = .ok (bound, rest)) :
    ∃ tokens, stream = rest.behind tokens ∧ IsBound tokens bound := by
  unfold readBound at h
  split at h
  · split at h
    · rename_i hn
      simp only [bind_eq_ok, pure_eq_ok, Prod.mk.injEq] at h
      obtain ⟨next, hready, rfl, rfl⟩ := h
      exact ⟨_, by rw [ready_eq_ok hready]; rfl, .present hn⟩
    · cases h
  · cases h
    exact ⟨[], rfl, .absent⟩

theorem readSlice_sound {token : Token} (place : Position) {v : Value} (hv : IsReference token v)
    (h : readSlice (.value v) stream = .ok (e, rest)) :
    ∃ tokens, stream = rest.behind tokens ∧
      IsOperand clock ((token, place) :: tokens) rest.head? e := by
  unfold readSlice at h
  split at h
  · rename_i p next
    simp only [bind_eq_ok, pure_eq_ok, Prod.mk.injEq] at h
    obtain ⟨opened, hopen, ⟨start, s₁⟩, hstart, s₂, hcolon, ⟨stop, s₃⟩, hstop, s₄, hclose,
      rfl, rfl⟩ := h
    obtain ⟨starts, hs, hstarts⟩ := readBound_sound hstart
    obtain ⟨stops, ht, hstops⟩ := readBound_sound hstop
    obtain ⟨q, rfl, -⟩ := expect_eq_ok.mp hcolon
    obtain ⟨r, rfl, -⟩ := expect_eq_ok.mp hclose
    refine ⟨(_, p) :: (starts ++ (_, q) :: (stops ++ [(_, r)])), ?_, .slice hv hstarts hstops⟩
    simp [← ht, ← hs, ready_eq_ok hopen]
  · rename_i hbracket
    simp only [bind_eq_ok, pure_eq_ok, Prod.mk.injEq] at h
    obtain ⟨next, hready, rfl, rfl⟩ := h
    rw [ready_eq_ok hready]
    refine ⟨[], rfl, .reference hv ?_⟩
    intro hn
    obtain ⟨p, next, rfl⟩ := eq_cons_of_head? hn
    exact hbracket p next rfl

theorem readLiteral_sound {place : Position} {literal : Except ValueError Value}
    (h : readLiteral literal place stream = .ok (e, rest)) :
    stream = rest ∧ ∃ v, literal = .ok v ∧ e = .value v := by
  simp only [readLiteral, bind_eq_ok] at h
  obtain ⟨next, hready, h⟩ := h
  cases literal with
  | error => cases h
  | ok v =>
    cases h
    exact ⟨(ready_eq_ok hready).symm, v, rfl, rfl⟩

theorem readOperand_sound (h : readOperand clock stream = .ok (e, rest)) :
    ∃ tokens, stream = rest.behind tokens ∧ IsOperand clock tokens rest.head? e := by
  unfold readOperand at h
  split at h
  case h_1 name place next =>
    obtain ⟨tokens, rfl, ht⟩ := readSlice_sound place .column h
    exact ⟨_, rfl, ht⟩
  case h_2 name place next =>
    obtain ⟨tokens, rfl, ht⟩ := readSlice_sound place .name h
    exact ⟨_, rfl, ht⟩
  case h_3 raw text place next =>
    obtain ⟨rfl, v, ⟨⟩, rfl⟩ := readLiteral_sound h
    exact ⟨[(_, place)], rfl, .literal .string⟩
  case h_4 source place next =>
    obtain ⟨rfl, v, hv, rfl⟩ := readLiteral_sound h
    exact ⟨[(_, place)], rfl, .literal (.pattern hv)⟩
  case h_5 word place next =>
    obtain ⟨rfl, v, hv, rfl⟩ := readLiteral_sound h
    exact ⟨[(_, place)], rfl, .literal (.number hv)⟩
  case h_6 => cases h

-- ---------------------------------------------------------------------------
-- Selections and parameters
-- ---------------------------------------------------------------------------

theorem not_compares_head? (h : ∀ op place next, stream = .cons (.operator op) place next → False) :
    ¬ Compares stream.head? := by
  rintro ⟨op, hop⟩
  obtain ⟨place, next, rfl⟩ := eq_cons_of_head? hop
  exact h op place next rfl

/-- Only a pattern token means a pattern. -/
theorem isOperand_regexp {tokens : List Placed} {next : Option Token} {p : Pattern}
    (h : IsOperand clock tokens next (.value (.regexp p))) :
    ∃ source place, tokens = [(.regex source, place)] ∧
      Value.ofPattern source = .ok (.regexp p) := by
  cases h with
  | literal hl =>
    cases hl with
    | pattern hv => exact ⟨_, _, rfl, hv⟩
    | number hv => exact absurd hv (Value.ofNumber_ne_regexp _ _)
  | reference hv =>
    generalize he : Value.regexp p = v at hv
    cases hv with
    | column => cases he
    | name => exact absurd he.symm (Value.ofName_ne_regexp _ _)

theorem readComparison_sound (h : readComparison clock stream = .ok (e, rest)) :
    ∃ tokens, stream = rest.behind tokens ∧ IsSelection clock tokens rest.head? e := by
  simp only [readComparison, bind_eq_ok] at h
  obtain ⟨⟨left, s₁⟩, hleft, h⟩ := h
  obtain ⟨lefts, rfl, hlefts⟩ := readOperand_sound hleft
  dsimp only at h hlefts
  split at h
  · rename_i op p s₂
    simp only [bind_eq_ok] at h
    obtain ⟨⟨middle, s₃⟩, hmiddle, h⟩ := h
    obtain ⟨middles, rfl, hmiddles⟩ := readOperand_sound hmiddle
    dsimp only at h hmiddles
    split at h
    · rename_i op' q s₄
      simp only [bind_eq_ok] at h
      obtain ⟨⟨right, s₅⟩, hright, h⟩ := h
      obtain ⟨rights, rfl, hrights⟩ := readOperand_sound hright
      split at h
      · rename_i hrange
        cases h
        obtain ⟨slope, lower, upper, rfl, rfl, rfl⟩ := Comparison.range_eq_ok.mp hrange
        exact ⟨lefts ++ (_, p) :: (middles ++ (_, q) :: rights), by simp,
          .range hlefts hmiddles hrights⟩
      · cases h
    · rename_i hnext
      cases h
      exact ⟨lefts ++ (_, p) :: middles, by simp,
        .comparison hlefts hmiddles (not_compares_head? hnext)⟩
  · rename_i hnext
    split at h
    · cases h
      obtain ⟨source, place, rfl, hv⟩ := isOperand_regexp hlefts
      exact ⟨_, rfl, .pattern hv (not_compares_head? hnext)⟩
    · cases h

theorem readSelection_sound (h : readSelection clock stream = .ok (e, rest)) :
    ∃ tokens, stream = rest.behind tokens ∧ IsSelection clock tokens rest.head? e := by
  fun_induction readSelection clock stream generalizing e rest with
  | case1 p next ih =>
    simp only [bind_eq_ok, pure_eq_ok, Prod.mk.injEq] at h
    obtain ⟨⟨inner, s₁⟩, hinner, rfl, rfl⟩ := h
    obtain ⟨tokens, rfl, ht⟩ := ih hinner
    exact ⟨(_, p) :: tokens, rfl, .not ht⟩
  | case2 p next ih =>
    simp only [bind_eq_ok, pure_eq_ok, Prod.mk.injEq] at h
    obtain ⟨⟨inner, s₁⟩, hinner, s₂, hclose, rfl, rfl⟩ := h
    obtain ⟨q, rfl, -⟩ := expect_eq_ok.mp hclose
    obtain ⟨tokens, rfl, ht⟩ := ih hinner
    exact ⟨(_, p) :: (tokens ++ [(_, q)]), by simp, .parentheses ht⟩
  | case3 op p next =>
    simp only [bind_eq_ok, pure_eq_ok, Prod.mk.injEq] at h
    obtain ⟨⟨right, s₁⟩, hright, rfl, rfl⟩ := h
    obtain ⟨tokens, rfl, ht⟩ := readOperand_sound hright
    exact ⟨(_, p) :: tokens, rfl, .againstLine ht⟩
  | case4 => exact readComparison_sound h

theorem readParam_sound (h : readParam clock stream = .ok (e, rest)) :
    ∃ tokens, stream = rest.behind tokens ∧ IsParam clock tokens rest.head? e := by
  simp only [readParam, bind_eq_ok] at h
  obtain ⟨⟨left, s₁⟩, hleft, h⟩ := h
  obtain ⟨lefts, rfl, hlefts⟩ := readOperand_sound hleft
  dsimp only at h hlefts
  split at h
  · rename_i op p s₂
    simp only [bind_eq_ok, pure_eq_ok, Prod.mk.injEq] at h
    obtain ⟨⟨right, s₃⟩, hright, rfl, rfl⟩ := h
    obtain ⟨rights, rfl, hrights⟩ := readOperand_sound hright
    exact ⟨lefts ++ (_, p) :: rights, by simp, .comparison hlefts hrights⟩
  · rename_i hnext
    cases h
    exact ⟨lefts, rfl, .operand hlefts (not_compares_head? hnext)⟩

end Expr

-- ---------------------------------------------------------------------------
-- Commands, rules and programs
-- ---------------------------------------------------------------------------

theorem TokenStream.skipSemicolons_sound (stream : TokenStream) :
    ∃ gap, Semicolons gap ∧ stream = stream.skipSemicolons.behind gap := by
  fun_induction skipSemicolons stream with
  | case1 place rest ih =>
    obtain ⟨gap, hgap, hrest⟩ := ih
    refine ⟨(.mark .semicolon, place) :: gap, ?_, by simp [← hrest]⟩
    rintro token (_ | ⟨_, ht⟩)
    · rfl
    · exact hgap token ht
  | case2 => exact ⟨[], semicolons_nil, rfl⟩

namespace Command

theorem readParams_sound {params : List Expr} (h : readParams clock stream = .ok (params, rest))
    (hclose : rest.head? = some (.mark .closeParen)) :
    ∃ tokens, stream = rest.behind tokens ∧ IsParams clock tokens params := by
  fun_induction readParams clock stream generalizing params rest with
  | case1 => cases h
  | case2 stream param p next hparam ih =>
    simp only [bind_eq_ok, pure_eq_ok, Prod.mk.injEq] at h
    obtain ⟨⟨more, s₁⟩, hmore, rfl, rfl⟩ := h
    obtain ⟨tokens, rfl, ht⟩ := Expr.readParam_sound hparam
    obtain ⟨others, rfl, ho⟩ := ih hmore hclose
    exact ⟨tokens ++ (_, p) :: others, by simp, .more ht ho⟩
  | case3 stream param next _ hparam =>
    cases h
    obtain ⟨tokens, rfl, ht⟩ := Expr.readParam_sound hparam
    exact ⟨tokens, rfl, .one (hclose ▸ ht)⟩

theorem read_sound {command : Command} (h : read clock stream = .ok (command, rest)) :
    ∃ tokens, stream = rest.behind tokens ∧ IsCommand clock tokens command := by
  unfold read at h
  split at h
  · rename_i name place next
    simp only [bind_eq_ok, pure_eq_ok, Prod.mk.injEq] at h
    obtain ⟨s₁, hopen, ⟨params, s₂⟩, hcall, rfl, rfl⟩ := h
    obtain ⟨p, rfl, -⟩ := expect_eq_ok.mp hopen
    unfold readCall at hcall
    split at hcall
    · rename_i q next
      simp only [bind_eq_ok, pure_eq_ok, Prod.mk.injEq] at hcall
      obtain ⟨s₃, hready, rfl, rfl⟩ := hcall
      rw [← ready_eq_ok hready]
      exact ⟨[(_, place), (_, p), (_, q)], rfl, .bare⟩
    · simp only [bind_eq_ok, pure_eq_ok, Prod.mk.injEq] at hcall
      obtain ⟨⟨params, s₃⟩, hparams, s₄, hclose, rfl, rfl⟩ := hcall
      obtain ⟨q, rfl, -⟩ := expect_eq_ok.mp hclose
      obtain ⟨tokens, rfl, ht⟩ := readParams_sound hparams rfl
      exact ⟨(_, place) :: (_, p) :: (tokens ++ [(_, q)]), by simp, .call ht⟩
  · cases h

end Command

namespace Block

theorem readCommands_sound {block : Block} (h : readCommands clock stream = .ok (block, rest)) :
    ∃ gap tokens q, stream = rest.behind (gap ++ (tokens ++ [(.mark .closeBrace, q)])) ∧
      Semicolons gap ∧ IsCommands clock tokens block := by
  fun_induction readCommands clock stream generalizing block rest with
  | case1 stream q next hnext =>
    simp only [bind_eq_ok, pure_eq_ok, Prod.mk.injEq] at h
    obtain ⟨s₁, hready, rfl, rfl⟩ := h
    obtain ⟨gap, hgap, hstream⟩ := stream.skipSemicolons_sound
    refine ⟨gap, [], q, ?_, hgap, .none⟩
    rw [hstream, hnext, ready_eq_ok hready]
    simp
  | case2 => cases h
  | case3 stream _ command s₁ hcommand ih =>
    simp only [bind_eq_ok, pure_eq_ok, Prod.mk.injEq] at h
    obtain ⟨⟨commands, s₂⟩, hcommands, rfl, rfl⟩ := h
    obtain ⟨gap, hgap, hstream⟩ := stream.skipSemicolons_sound
    obtain ⟨tokens, hs, ht⟩ := Command.read_sound hcommand
    obtain ⟨gap', others, q, rfl, hgap', ho⟩ := ih hcommands
    refine ⟨gap, tokens ++ (gap' ++ others), q, ?_, hgap, .more ht hgap' ho⟩
    rw [hstream, hs]
    simp

end Block

theorem Rule.read_sound {rule : Rule} (h : read clock stream = .ok (rule, rest)) :
    ∃ tokens, stream = rest.behind tokens ∧ IsRule clock tokens rest.head? rule := by
  unfold read at h
  split at h
  · rename_i p next
    simp only [bind_eq_ok, pure_eq_ok, Prod.mk.injEq] at h
    obtain ⟨⟨block, s₁⟩, hblock, rfl, rfl⟩ := h
    obtain ⟨gap, tokens, q, rfl, hgap, ht⟩ := Block.readCommands_sound hblock
    exact ⟨(_, p) :: (gap ++ (tokens ++ [(_, q)])), rfl, .block (.braces hgap ht)⟩
  · simp only [bind_eq_ok, pure_eq_ok, Prod.mk.injEq] at h
    obtain ⟨⟨selection, s₁⟩, hselection, ⟨block, s₂⟩, hblock, rfl, rfl⟩ := h
    obtain ⟨tokens, rfl, ht⟩ := Expr.readSelection_sound hselection
    dsimp only at hblock ht
    unfold Block.read at hblock
    split at hblock
    · rename_i p next _
      obtain ⟨gap, others, q, rfl, hgap, ho⟩ := Block.readCommands_sound hblock
      exact ⟨tokens ++ (_, p) :: (gap ++ (others ++ [(_, q)])), by simp,
        .both ht (.braces hgap ho)⟩
    · rename_i hbrace
      cases hblock
      refine ⟨tokens, rfl, .selection ht ?_⟩
      intro hn
      obtain ⟨p, next, rfl⟩ := eq_cons_of_head? hn
      exact hbrace p next rfl

theorem Program.read_sound {program : Program} (h : read clock stream = .ok program) :
    ∃ tokens place, stream = (finish place).behind tokens ∧ IsProgram clock tokens program := by
  suffices ∃ gap tokens place, stream = (finish place).behind (gap ++ tokens) ∧
      Semicolons gap ∧ IsRules clock tokens program by
    obtain ⟨gap, tokens, place, rfl, hgap, ht⟩ := this
    exact ⟨_, place, rfl, .rules hgap ht⟩
  fun_induction read clock stream generalizing program with
  | case1 stream place hnext =>
    cases h
    obtain ⟨gap, hgap, hstream⟩ := stream.skipSemicolons_sound
    exact ⟨gap, [], place, by rw [hstream, hnext]; simp, hgap, .none⟩
  | case2 => cases h
  | case3 stream _ rule s₁ hrule ih =>
    simp only [bind_eq_ok, pure_eq_ok] at h
    obtain ⟨rules, hrules, rfl⟩ := h
    obtain ⟨gap, hgap, hstream⟩ := stream.skipSemicolons_sound
    obtain ⟨tokens, hs, ht⟩ := Rule.read_sound hrule
    obtain ⟨gap', others, place, rfl, hgap', ho⟩ := ih hrules
    rw [head?_behind, head?_finish, Option.or_none] at ht
    refine ⟨gap, tokens ++ (gap' ++ others), place, ?_, hgap, .more ht hgap' ho⟩
    rw [hstream, hs]
    simp

end LineFilter
