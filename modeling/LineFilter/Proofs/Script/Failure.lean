import LineFilter.Proofs.Script.Blame

/-!
# Where readers fail

Each reader of the grammar looks one token ahead, so what it takes and where it
fails is settled by the tokens up to there.
-/

namespace LineFilter

open Grammar TokenStream

variable {clock : Clock} {stream rest : TokenStream}

namespace Expr

theorem readBound_local : Local clock readBound stream := by
  by_cases h : ∃ word, stream.head? = some (.number word)
  · obtain ⟨word, hword⟩ := h
    obtain ⟨place, rest, rfl⟩ := eq_cons_of_head? hword
    cases hn : IntegerLiteral.read? word with
    | some n =>
      refine .behind [(_, place)] (fun _ _ => ?_) (.ready fun _ => .done (some n))
      simp only [behind_cons, behind_nil, readBound, hn]
      rfl
    | none =>
      have hfails (place : Position) (rest : TokenStream) :
          readBound (.cons (.number word) place rest) =
            .error (.grammar (.badSliceBound word) place) := by
        simp only [readBound, hn]
      refine .fails (.bound hn) (hfails place rest) fun other ha => ?_
      obtain ⟨place', rest', rfl⟩ := ha.eq_cons
      exact ⟨_, hfails place' rest'⟩
  · refine .congr (fun other ha => ?_) (.done none)
    rw [← ha.1] at h
    unfold readBound
    split
    · exact absurd ⟨_, rfl⟩ h
    · rfl

theorem readSlice_local (operand : Expr) : Local clock (readSlice operand) stream := by
  by_cases h : stream.head? = some (.mark .openBracket)
  · obtain ⟨place, rest, rfl⟩ := eq_cons_of_head? h
    refine .behind [(_, place)] (fun _ _ => rfl) (.ready fun _ => ?_)
    refine readBound_local.bind fun start s₁ _ => .expect fun _ s₂ _ => ?_
    exact readBound_local.bind fun stop s₃ _ => .expect fun _ s₄ _ => .done _
  · refine .congr (fun other ha => ?_) (.ready fun _ => .done operand)
    rw [← ha.1] at h
    unfold readSlice
    split
    · exact absurd rfl h
    · rfl

/-- A literal that means nothing is at fault, unless what follows is no token. -/
theorem readOperand_literal {token : Token} {literal : Except ValueError Value} {place : Position}
    (h : ∀ place rest, readOperand clock (.cons token place rest) = readLiteral literal place rest)
    (hb : ∀ error, literal = .error error →
      Blames clock [] (.cons token place rest) (.literal error place)) :
    Local clock (readOperand clock) (.cons token place rest) := by
  cases literal with
  | ok v => exact .behind [(token, place)] (fun other _ => h place other) (.ready fun _ => .done _)
  | error error =>
    have hfails (place : Position) (stream : TokenStream) :
        ∃ error', readLiteral (.error error) place stream = .error error' := by
      cases stream <;> exact ⟨_, rfl⟩
    have hliteral (hrest : readLiteral (.error error) place rest = .error (.literal error place)) :
        Local clock (readOperand clock) (.cons token place rest) := by
      refine .fails (hb error rfl) ((h place rest).trans hrest) fun other ha => ?_
      obtain ⟨place', rest', rfl⟩ := ha.eq_cons
      rw [h]
      exact hfails place' rest'
    cases rest with
    | finish | cons => exact hliteral rfl
    | fault lexical =>
      refine .behind [(token, place)] (fun other _ => h place other) ?_
      exact .fails .lexical rfl fun other _ => hfails place other

theorem readOperand_refuse (h : ∀ other, other.Alike stream →
      readOperand clock other = .error (other.refuse .expectedValue)) :
    Local clock (readOperand clock) stream :=
  .congr h (local_refuse .expectedValue fun _ => rfl)

theorem raw_of_ofNumber {word : Text} {error : ValueError}
    (h : Value.ofNumber clock word = .error error) : error.raw = word := by
  unfold Value.ofNumber Value.ofInteger Value.ofDecimal Value.ofDate at h
  grind [ValueError.raw]

theorem raw_of_ofPattern {source : Text} {error : ValueError}
    (h : Value.ofPattern source = .error error) : error.raw = source := by
  unfold Value.ofPattern at h
  split at h <;> cases h
  rfl

theorem readOperand_local : Local clock (readOperand clock) stream := by
  cases stream with
  | finish place =>
    refine readOperand_refuse fun other ha => ?_
    obtain ⟨place', rfl⟩ := ha.eq_finish
    rfl
  | fault error =>
    refine readOperand_refuse fun other ha => ?_
    obtain ⟨error', rfl⟩ := ha.eq_fault
    rfl
  | cons token place rest =>
    cases token with
    | column name =>
      exact .behind [(_, place)] (fun _ _ => rfl) (readSlice_local (.value (.variable name)))
    | identifier name =>
      exact .behind [(_, place)] (fun _ _ => rfl) (readSlice_local (.value (.ofName name)))
    | string raw text =>
      exact .behind [(_, place)] (fun _ _ => rfl) (.ready fun _ => .done (value (.string raw text)))
    | regex source =>
      exact readOperand_literal (fun _ _ => rfl) fun error h => .pattern h (raw_of_ofPattern h)
    | number word =>
      exact readOperand_literal (fun _ _ => rfl) fun error h => .number h (raw_of_ofNumber h)
    | operator | mark =>
      refine readOperand_refuse fun other ha => ?_
      obtain ⟨place', rest', rfl⟩ := ha.eq_cons
      rfl

-- ---------------------------------------------------------------------------
-- Selections and parameters
-- ---------------------------------------------------------------------------

/-- Goes on after an operand: with what stands behind an operator, or, where none
follows, in a way of its own. -/
theorem local_operator {α : Type} {next : Operator → Reader α} {other : Reader α}
    {read : Reader α}
    (hop : ∀ op place rest, read (.cons (.operator op) place rest) = next op rest)
    (hother : ∀ s, ¬ Compares s.head? → read s = other s)
    (hn : ∀ op place rest, stream = .cons (.operator op) place rest → Local clock (next op) rest)
    (ho : ¬ Compares stream.head? → Local clock other stream) : Local clock read stream := by
  by_cases h : Compares stream.head?
  · obtain ⟨op, hhead⟩ := h
    obtain ⟨place, rest, rfl⟩ := eq_cons_of_head? hhead
    exact .behind [(_, place)] (fun s _ => hop op place s) (hn op place rest rfl)
  · exact .congr (fun s ha => hother s (ha.1 ▸ h)) (ho h)

/-- An operand, with the tokens that it has and that any like stream gives. -/
theorem readOperand_taken {e : Expr} (h : readOperand clock stream = .ok (e, rest)) :
    ∃ tokens, stream = rest.behind tokens ∧ IsOperand clock tokens rest.head? e ∧
      ∀ rest' : TokenStream, rest'.Alike rest →
        readOperand clock (rest'.behind tokens) = .ok (e, rest') := by
  obtain ⟨tokens, hstream, ht⟩ := readOperand_sound h
  obtain ⟨tokens', hstream', hread⟩ := readOperand_local.takes e rest h
  have hplaced := congrArg placed (hstream.symm.trans hstream')
  rw [placed_behind, placed_behind] at hplaced
  obtain rfl := List.append_cancel_right hplaced
  exact ⟨tokens, hstream, ht, hread⟩

/-- An operand is taken only in front of a token or the end. -/
theorem reads_of_readOperand {e : Expr} (h : readOperand clock stream = .ok (e, rest)) :
    rest.Reads := by
  have hslice {operand : Expr} {stream : TokenStream}
      (h : readSlice operand stream = .ok (e, rest)) : rest.Reads := by
    unfold readSlice at h
    split at h
    · simp only [bind_eq_ok, pure_eq_ok, Prod.mk.injEq] at h
      obtain ⟨_, -, _, -, _, -, _, -, _, hclose, -, rfl⟩ := h
      obtain ⟨_, -, hr⟩ := expect_eq_ok.mp hclose
      exact hr
    · simp only [bind_eq_ok, pure_eq_ok, Prod.mk.injEq] at h
      obtain ⟨_, hready, -, rfl⟩ := h
      obtain ⟨rfl, hr⟩ := eq_of_ready hready
      exact hr
  have hliteral {literal : Except ValueError Value} {place : Position} {stream : TokenStream}
      (h : readLiteral literal place stream = .ok (e, rest)) : rest.Reads := by
    obtain ⟨_, hready, -⟩ := bind_eq_ok.mp h
    rw [rest_eq_of_readLiteral h, ← (eq_of_ready hready).1]
    exact (eq_of_ready hready).1 ▸ (eq_of_ready hready).2
  unfold readOperand at h
  split at h
  case h_1 | h_2 => exact hslice h
  case h_3 | h_4 | h_5 => exact hliteral h
  case h_6 => cases h

section
variable {left middle : Expr} {op op' : Operator} {p q : Position} {after last : TokenStream}
  {error : ScriptError}

theorem readComparison_left_fails (h : readOperand clock stream = .error error) :
    readComparison clock stream = .error error :=
  bind_eq_error.mpr (.inl h)

theorem readComparison_middle_fails
    (hl : readOperand clock stream = .ok (left, .cons (.operator op) p after))
    (h : readOperand clock after = .error error) : readComparison clock stream = .error error :=
  bind_eq_error.mpr (.inr ⟨_, hl, bind_eq_error.mpr (.inl h)⟩)

theorem readComparison_right_fails
    (hl : readOperand clock stream = .ok (left, .cons (.operator op) p after))
    (hm : readOperand clock after = .ok (middle, .cons (.operator op') q last))
    (h : readOperand clock last = .error error) : readComparison clock stream = .error error :=
  bind_eq_error.mpr (.inr ⟨_, hl, bind_eq_error.mpr (.inr ⟨_, hm, bind_eq_error.mpr (.inl h)⟩)⟩)

/-- Whatever the third operand is, the operators decide. -/
theorem readComparison_range_fails {right : Expr} {cause : RangeError}
    (hl : readOperand clock stream = .ok (left, .cons (.operator op) p after))
    (hm : readOperand clock after = .ok (middle, .cons (.operator op') q last))
    (h : Comparison.range ⟨left, op, middle⟩ ⟨middle, op', right⟩ = .error cause) :
    ∃ error, readComparison clock stream = .error error := by
  cases hr : readOperand clock last with
  | error error => exact ⟨error, readComparison_right_fails hl hm hr⟩
  | ok read =>
    obtain ⟨other, rest⟩ := read
    cases hrange : Comparison.range ⟨left, op, middle⟩ ⟨middle, op', other⟩ with
    | ok e =>
      obtain ⟨slope, lower, upper, rfl, rfl, -⟩ := Comparison.range_eq_ok.mp hrange
      rw [Comparison.range_eq_ok.mpr ⟨slope, lower, upper, rfl, rfl, rfl⟩] at h
      cases h
    | error cause' =>
      refine ⟨.range cause' stream.place, bind_eq_error.mpr (.inr ⟨_, hl, ?_⟩)⟩
      refine bind_eq_error.mpr (.inr ⟨_, hm, bind_eq_error.mpr (.inr ⟨_, hr, ?_⟩)⟩)
      simp only [hrange]

theorem readComparison_uncompared (hl : readOperand clock stream = .ok (left, rest))
    (hc : ¬ Compares rest.head?) (hr : ∀ p, left ≠ .value (.regexp p)) :
    readComparison clock stream = .error (.grammar (.expectedComparison left) stream.place) := by
  refine bind_eq_error.mpr (.inr ⟨_, hl, ?_⟩)
  dsimp only
  split
  · exact absurd ⟨_, rfl⟩ hc
  · split
    · exact absurd rfl (hr _)
    · rfl

end

theorem readParam_local : Local clock (readParam clock) stream := by
  refine readOperand_local.bind fun left s₁ _ => local_operator (fun _ _ _ => rfl) ?_
    (fun _ _ s₂ _ => readOperand_local.bind fun right s₃ _ => .done _) fun _ => .done left
  intro s hs
  dsimp only
  split
  · exact absurd ⟨_, rfl⟩ hs
  · rfl

theorem readComparison_takes : Takes (readComparison clock) stream := by
  intro e rest h
  simp only [readComparison, bind_eq_ok] at h
  obtain ⟨⟨left, s₁⟩, hleft, h⟩ := h
  obtain ⟨lefts, rfl, -, hl⟩ := readOperand_taken hleft
  dsimp only at h
  split at h
  · rename_i op p s₂
    simp only [bind_eq_ok] at h
    obtain ⟨⟨middle, s₃⟩, hmiddle, h⟩ := h
    obtain ⟨middles, rfl, -, hm⟩ := readOperand_taken hmiddle
    dsimp only at h
    split at h
    · rename_i op' q s₄
      simp only [bind_eq_ok] at h
      obtain ⟨⟨right, s₅⟩, hright, h⟩ := h
      obtain ⟨rights, rfl, -, hr⟩ := readOperand_taken hright
      split at h
      · rename_i hrange
        cases h
        refine ⟨lefts ++ (.operator op, p) :: (middles ++ (.operator op', q) :: rights), by simp,
          fun rest' ha => ?_⟩
        rw [behind_append, behind_cons, behind_append, behind_cons]
        exact readComparison_range (hl _ alike_cons) (hm _ alike_cons) (hr rest' ha) hrange
      · cases h
    · rename_i hnext
      cases h
      refine ⟨lefts ++ (.operator op, p) :: middles, by simp, fun rest' ha => ?_⟩
      rw [behind_append, behind_cons]
      exact readComparison_compare (hl _ alike_cons) (hm rest' ha)
        (ha.1 ▸ not_compares_head? hnext)
  · rename_i hnext
    split at h
    · cases h
      refine ⟨lefts, rfl, fun rest' ha => ?_⟩
      exact readComparison_pattern (hl rest' ha) (ha.1 ▸ not_compares_head? hnext)
    · cases h

theorem readComparison_points : Points clock (readComparison clock) stream := by
  intro error h
  rcases bind_eq_error.mp h with hleft | ⟨⟨left, s₁⟩, hleft, h₁⟩
  · exact (readOperand_local.points error hleft).behind [] fun _ _ _ => readComparison_left_fails
  obtain ⟨lefts, rfl, hlefts, hl⟩ := readOperand_taken hleft
  dsimp only at h₁
  split at h₁
  · rename_i op p s₂
    rcases bind_eq_error.mp h₁ with hmiddle | ⟨⟨middle, s₃⟩, hmiddle, h₂⟩
    · have hb : Blamed clock (readComparison clock) _ error :=
        (readOperand_local.points error hmiddle).behind (lefts ++ [(.operator op, p)])
          fun other _ _ herror => by
            simpa using readComparison_middle_fails (hl _ alike_cons) herror
      simpa using hb
    obtain ⟨middles, rfl, hmiddles, hm⟩ := readOperand_taken hmiddle
    dsimp only at h₂
    split at h₂
    · rename_i op' q s₄
      rcases bind_eq_error.mp h₂ with hright | ⟨⟨right, s₅⟩, hright, h₃⟩
      · have hb : Blamed clock (readComparison clock) _ error :=
          (readOperand_local.points error hright).behind
            (lefts ++ (.operator op, p) :: (middles ++ [(.operator op', q)]))
            fun other _ _ herror => by
              simpa using readComparison_right_fails (hl _ alike_cons)
                (hm (.cons _ q other) alike_cons) herror
        simpa using hb
      obtain ⟨rights, rfl, hrights, -⟩ := readOperand_taken hright
      split at h₃
      · cases h₃
      · rename_i hrange
        cases h₃
        refine ⟨[], lefts ++ (.operator op, p) :: middles,
          .cons (.operator op') q (s₅.behind rights), by simp, ?_, fun rest' ha => ?_⟩
        · simpa using Blames.range hlefts hmiddles hrights hrange
        · obtain ⟨q', rest', rfl⟩ := ha.eq_cons
          simpa using readComparison_range_fails (hl _ alike_cons)
            (hm (.cons _ q' rest') alike_cons) hrange
    · cases h₂
  · rename_i hnext
    split at h₁
    · cases h₁
    · rename_i hregexp
      cases h₁
      have hcompares := not_compares_head? hnext
      refine ⟨[], lefts, s₁, rfl, ?_, fun rest' ha => ?_⟩
      · exact .uncompared hlefts (reads_of_readOperand hleft) hcompares hregexp
      · exact ⟨_, readComparison_uncompared (hl rest' ha) (ha.1 ▸ hcompares) hregexp⟩

theorem readComparison_local : Local clock (readComparison clock) stream :=
  ⟨readComparison_takes, readComparison_points⟩

theorem readSelection_of_head (hb : stream.head? ≠ some (.mark .bang))
    (hp : stream.head? ≠ some (.mark .openParen)) (hc : ¬ Compares stream.head?) :
    readSelection clock stream = readComparison clock stream := by
  unfold readSelection
  split
  · exact absurd rfl hb
  · exact absurd rfl hp
  · exact absurd ⟨_, rfl⟩ hc
  · rfl

theorem readSelection_local : Local clock (readSelection clock) stream := by
  fun_induction readSelection clock stream with
  | case1 p next ih => exact .behind [(_, p)] (fun _ _ => rfl) (ih.bind fun _ _ _ => .done _)
  | case2 p next ih =>
    exact .behind [(_, p)] (fun _ _ => rfl) (ih.bind fun _ _ _ => .expect fun _ _ _ => .done _)
  | case3 op p next =>
    exact .behind [(_, p)] (fun _ _ => rfl) (readOperand_local.bind fun _ _ _ => .done _)
  | case4 stream hbang hparen hop =>
    have hne {m : Mark} (h : ∀ p next, stream = .cons (.mark m) p next → False) :
        stream.head? ≠ some (.mark m) := by
      intro hm
      obtain ⟨p, next, rfl⟩ := eq_cons_of_head? hm
      exact h p next rfl
    refine .congr (fun other ha => ?_) readComparison_local
    refine readSelection_of_head ?_ ?_ ?_ <;> rw [ha.1]
    · exact hne hbang
    · exact hne hparen
    · exact not_compares_head? hop

end Expr

-- ---------------------------------------------------------------------------
-- Commands, rules and programs
-- ---------------------------------------------------------------------------

namespace Command

theorem readParams_eq (stream : TokenStream) :
    readParams clock stream = Expr.readParam clock stream >>= fun p =>
      match p with
      | (param, .cons (.mark .comma) _ rest) =>
        readParams clock rest >>= fun q => .ok (param :: q.1, q.2)
      | (param, rest) => .ok ([param], rest) := by
  rw [readParams]
  split
  · simp_all [bind, Except.bind]
  · simp_all [bind, Except.bind, pure, Except.pure]
  · simp_all [bind, Except.bind]

theorem readParams_local (stream : TokenStream) : Local clock (readParams clock) stream := by
  refine .congr (fun other _ => readParams_eq other)
    (Expr.readParam_local.bind fun param rest hp => ?_)
  by_cases hc : rest.head? = some (.mark .comma)
  · obtain ⟨p, next, rfl⟩ := eq_cons_of_head? hc
    have hshorter := Nat.lt_of_succ_lt (Expr.length_lt_of_readParam hp)
    exact .behind [(_, p)] (fun _ _ => rfl) ((readParams_local next).bind fun params _ _ =>
      .done (param :: params))
  · refine .congr (fun other ha => ?_) (.done [param])
    rw [← ha.1] at hc
    split
    · rename_i heq
      cases heq
      exact absurd rfl hc
    · rename_i heq
      cases heq
      rfl
termination_by stream.length

theorem readCall_local : Local clock (readCall clock) stream := by
  by_cases h : stream.head? = some (.mark .closeParen)
  · obtain ⟨p, rest, rfl⟩ := eq_cons_of_head? h
    exact .behind [(_, p)] (fun _ _ => rfl) (.ready fun _ => .done [])
  · have hcall : Local clock
        (fun s => readParams clock s >>= fun p => p.2.expect .closeParen >>= fun r => .ok (p.1, r))
        stream :=
      (readParams_local stream).bind fun params _ _ => .expect fun _ _ _ => .done params
    refine hcall.congr fun other ha => ?_
    rw [← ha.1] at h
    unfold readCall
    split
    · exact absurd rfl h
    · rfl

theorem read_local : Local clock (read clock) stream := by
  by_cases h : ∃ name, stream.head? = some (.identifier name)
  · obtain ⟨name, hname⟩ := h
    obtain ⟨p, rest, rfl⟩ := eq_cons_of_head? hname
    exact .behind [(_, p)] (fun _ _ => rfl)
      (.expect fun _ _ _ => readCall_local.bind fun _ _ _ => .done _)
  · refine .congr (fun other ha => ?_) (local_refuse .expectedCommand fun _ => rfl)
    rw [← ha.1] at h
    unfold read
    split
    · exact absurd ⟨_, rfl⟩ h
    · rfl

end Command

theorem TokenStream.skipSemicolons_head? (stream : TokenStream) :
    stream.skipSemicolons.head? ≠ some (.mark .semicolon) := by
  fun_induction skipSemicolons stream with
  | case1 _ _ ih => exact ih
  | case2 stream h =>
    intro hm
    obtain ⟨p, next, rfl⟩ := eq_cons_of_head? hm
    exact h p next rfl

/-- Semicolons in front make no difference to a reader that skips them. -/
theorem Points.skipSemicolons {α : Type} {read next : TokenStream → Except ScriptError α}
    (hr : ∀ s, read s = next s.skipSemicolons) (h : Points clock next stream.skipSemicolons) :
    Points clock read stream := by
  obtain ⟨gap, hgap, hstream⟩ := stream.skipSemicolons_sound
  rw [hstream]
  refine h.behind gap fun other ha => ?_
  rw [hr, skipSemicolons_behind hgap (ha.1 ▸ skipSemicolons_head? stream)]

theorem Local.skipSemicolons {α : Type} {read next : Reader α}
    (hr : ∀ s, read s = next s.skipSemicolons) (h : Local clock next stream.skipSemicolons) :
    Local clock read stream := by
  obtain ⟨gap, hgap, hstream⟩ := stream.skipSemicolons_sound
  rw [hstream]
  refine h.behind gap fun other ha => ?_
  rw [hr, skipSemicolons_behind hgap (ha.1 ▸ skipSemicolons_head? stream)]

namespace Block

/-- Commands up to the closing brace, without semicolons in front. -/
def readUnspaced (clock : Clock) : Reader Block
  | .cons (.mark .closeBrace) _ rest => do return ([], ← rest.ready)
  | stream => do
    let (command, rest) ← Command.read clock stream
    let (commands, rest) ← readCommands clock rest
    return (command :: commands, rest)

theorem readCommands_eq (stream : TokenStream) :
    readCommands clock stream = readUnspaced clock stream.skipSemicolons := by
  rw [readCommands]
  unfold readUnspaced
  split
  · simp_all
  · split
    · simp_all [bind, Except.bind]
    · simp_all [bind, Except.bind, pure, Except.pure]

theorem readCommands_local (stream : TokenStream) : Local clock (readCommands clock) stream := by
  refine .skipSemicolons readCommands_eq ?_
  have hle := stream.length_skipSemicolons_le
  generalize stream.skipSemicolons = next at hle ⊢
  by_cases h : next.head? = some (.mark .closeBrace)
  · obtain ⟨p, rest, rfl⟩ := eq_cons_of_head? h
    exact .behind [(_, p)] (fun _ _ => rfl) (.ready fun _ => .done [])
  · have hmore : Local clock (fun s => do
        let (command, rest) ← Command.read clock s
        let (commands, rest) ← readCommands clock rest
        return (command :: commands, rest)) next := by
      refine Command.read_local.bind fun command rest hc => ?_
      have hshorter := Nat.lt_of_lt_of_le (Command.length_lt_of_read hc) hle
      exact (readCommands_local rest).bind fun commands _ _ => .done (command :: commands)
    refine hmore.congr fun other ha => ?_
    rw [← ha.1] at h
    unfold readUnspaced
    split
    · exact absurd rfl h
    · rfl
termination_by stream.length

theorem read_local : Local clock (read clock) stream := by
  by_cases h : stream.head? = some (.mark .openBrace)
  · obtain ⟨p, rest, rfl⟩ := eq_cons_of_head? h
    exact .behind [(_, p)] (fun _ _ => rfl) (readCommands_local rest)
  · exact .congr (fun other ha => read_absent (ha.1 ▸ h)) (.done printLine)

end Block

theorem Rule.read_local : Local clock (read clock) stream := by
  by_cases h : stream.head? = some (.mark .openBrace)
  · obtain ⟨p, rest, rfl⟩ := eq_cons_of_head? h
    exact .behind [(_, p)] (fun _ _ => rfl)
      ((Block.readCommands_local rest).bind fun block _ _ => .done (⟨none, block⟩ : Rule))
  · have hblock (selection : Expr) (rest : TokenStream) : Local clock
        (fun s => Block.read clock s >>= fun q => .ok ((⟨some selection, q.1⟩ : Rule), q.2)) rest :=
      Block.read_local.bind fun block _ _ => .done (⟨some selection, block⟩ : Rule)
    have hselection : Local clock (fun s => Expr.readSelection clock s >>= fun p =>
        Block.read clock p.2 >>= fun q => .ok ((⟨some p.1, q.1⟩ : Rule), q.2)) stream :=
      Expr.readSelection_local.bind fun selection rest _ => hblock selection rest
    refine hselection.congr fun other ha => ?_
    rw [← ha.1] at h
    unfold read
    split
    · exact absurd rfl h
    · rfl

namespace Program

/-- Rules up to the end of the script, without semicolons in front. -/
def readUnspaced (clock : Clock) : TokenStream → Except ScriptError Program
  | .finish _ => .ok []
  | stream => do
    let (rule, rest) ← Rule.read clock stream
    return rule :: (← read clock rest)

theorem read_eq (stream : TokenStream) :
    read clock stream = readUnspaced clock stream.skipSemicolons := by
  rw [read]
  unfold readUnspaced
  split
  · simp_all
  · split
    · simp_all [bind, Except.bind]
    · simp_all [bind, Except.bind, pure, Except.pure]

theorem read_points (stream : TokenStream) : Points clock (read clock) stream := by
  refine .skipSemicolons read_eq ?_
  have hle := stream.length_skipSemicolons_le
  generalize stream.skipSemicolons = next at hle ⊢
  have hmore : Points clock (fun s => do
      let (rule, rest) ← Rule.read clock s
      return rule :: (← read clock rest)) next := by
    refine .bind Rule.read_local fun rule rest hr => ?_
    have hshorter := Nat.lt_of_lt_of_le (Rule.length_lt_of_read hr) hle
    intro error h
    rcases bind_eq_error.mp h with herror | ⟨rules, -, h⟩
    · exact (read_points rest error herror).behind [] fun _ _ _ h => bind_eq_error.mpr (.inl h)
    · cases h
  cases next with
  | finish place => rintro _ ⟨⟩
  | fault error =>
    refine hmore.congr fun other ha => ?_
    obtain ⟨error', rfl⟩ := ha.eq_fault
    rfl
  | cons token place rest =>
    refine hmore.congr fun other ha => ?_
    obtain ⟨place', rest', rfl⟩ := ha.eq_cons
    rfl
termination_by stream.length

end Program

end LineFilter
