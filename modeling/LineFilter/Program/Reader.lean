import LineFilter.Expr.Reader
import LineFilter.Program.Basic

/-!
# Programs in a script

A command is a name and its parameters in parentheses; a block is commands in
braces; a rule is a selection, a block or both. Semicolons may stand around
commands and rules and need not. A brace behind a selection belongs to its
rule, and an operator behind an operand to its comparison.
-/

namespace LineFilter

open TokenStream

namespace TokenStream

/-- The stream behind its semicolons. -/
def skipSemicolons : TokenStream → TokenStream
  | .cons (.mark .semicolon) _ rest => rest.skipSemicolons
  | stream => stream

theorem length_skipSemicolons_le (stream : TokenStream) :
    stream.skipSemicolons.length ≤ stream.length := by
  fun_induction skipSemicolons stream with
  | case1 _ _ ih => exact Nat.le_succ_of_le ih
  | case2 => exact Nat.le_refl _

end TokenStream

namespace Command

/-- Parameters with commas between them, at least one. -/
def readParams (clock : Clock) (stream : TokenStream) :
    Except ScriptError (List Expr × TokenStream) :=
  match _h : Expr.readParam clock stream with
  | .error e => .error e
  | .ok (param, .cons (.mark .comma) _ rest) => do
    let (params, rest) ← readParams clock rest
    return (param :: params, rest)
  | .ok (param, rest) => .ok ([param], rest)
termination_by stream.length
decreasing_by
  have := Expr.length_lt_of_readParam _h
  simp only [length] at this
  omega

/-- The parameters of a call and the mark behind them. -/
def readCall (clock : Clock) (stream : TokenStream) :
    Except ScriptError (List Expr × TokenStream) :=
  match stream with
  | .cons (.mark .closeParen) _ rest => do return ([], ← rest.ready)
  | stream => do
    let (params, rest) ← readParams clock stream
    return (params, ← rest.expect .closeParen)

def read (clock : Clock) (stream : TokenStream) : Except ScriptError (Command × TokenStream) :=
  match stream with
  | .cons (.identifier name) place rest => do
    let (params, rest) ← readCall clock (← rest.expect .openParen)
    return (⟨name, params, place⟩, rest)
  | stream => .error (stream.refuse .expectedCommand)

theorem length_lt_of_readParams {clock : Clock} {stream rest : TokenStream} {params : List Expr}
    (h : readParams clock stream = .ok (params, rest)) : rest.length < stream.length := by
  fun_induction readParams clock stream generalizing params rest with
  | case1 => cases h
  | case2 stream param place next hparam ih =>
    simp only [bind_eq_ok, pure_eq_ok, Prod.mk.injEq] at h
    obtain ⟨⟨more, s₁⟩, hmore, -, rfl⟩ := h
    have hp := Expr.length_lt_of_readParam hparam
    simp only [length] at hp
    exact Nat.lt_trans (ih hmore) (by omega)
  | case3 stream param next _ hparam =>
    cases h
    exact Expr.length_lt_of_readParam hparam

theorem length_lt_of_readCall {clock : Clock} {stream rest : TokenStream} {params : List Expr}
    (h : readCall clock stream = .ok (params, rest)) : rest.length < stream.length := by
  unfold readCall at h
  split at h
  · simp only [bind_eq_ok, pure_eq_ok, Prod.mk.injEq] at h
    obtain ⟨s₁, hready, -, rfl⟩ := h
    simp [ready_eq_ok hready, length]
  · simp only [bind_eq_ok, pure_eq_ok, Prod.mk.injEq] at h
    obtain ⟨⟨params, s₁⟩, hparams, s₂, hclose, -, rfl⟩ := h
    exact Nat.lt_trans (length_lt_of_expect hclose) (length_lt_of_readParams hparams)

theorem length_lt_of_read {clock : Clock} {stream rest : TokenStream} {command : Command}
    (h : read clock stream = .ok (command, rest)) : rest.length < stream.length := by
  unfold read at h
  split at h
  · simp only [bind_eq_ok, pure_eq_ok, Prod.mk.injEq] at h
    obtain ⟨s₁, hopen, ⟨params, s₂⟩, hcall, -, rfl⟩ := h
    exact Nat.lt_succ_of_lt (Nat.lt_trans (length_lt_of_readCall hcall) (length_lt_of_expect hopen))
  · cases h

end Command

namespace Block

/-- Commands up to the closing brace. -/
def readCommands (clock : Clock) (stream : TokenStream) :
    Except ScriptError (Block × TokenStream) :=
  match _h : stream.skipSemicolons with
  | .cons (.mark .closeBrace) _ rest => do return ([], ← rest.ready)
  | next =>
    match _h' : Command.read clock next with
    | .error e => .error e
    | .ok (command, rest) => do
      let (commands, rest) ← readCommands clock rest
      return (command :: commands, rest)
termination_by stream.length
decreasing_by
  exact Nat.lt_of_lt_of_le (Command.length_lt_of_read _h') (_h ▸ stream.length_skipSemicolons_le)

/-- The block of a rule, where there is one, or the one that prints the line. -/
def read (clock : Clock) (stream : TokenStream) : Except ScriptError (Block × TokenStream) :=
  match stream with
  | .cons (.mark .openBrace) _ rest => readCommands clock rest
  | stream => .ok (printLine, stream)

theorem length_lt_of_readCommands {clock : Clock} {stream rest : TokenStream} {block : Block}
    (h : readCommands clock stream = .ok (block, rest)) : rest.length < stream.length := by
  fun_induction readCommands clock stream generalizing block rest with
  | case1 stream place next hnext =>
    simp only [bind_eq_ok, pure_eq_ok, Prod.mk.injEq] at h
    obtain ⟨s₁, hready, -, rfl⟩ := h
    have := stream.length_skipSemicolons_le
    simp only [hnext, length] at this
    simp only [ready_eq_ok hready]
    omega
  | case2 => cases h
  | case3 stream _ command s₁ hcommand ih =>
    simp only [bind_eq_ok, pure_eq_ok, Prod.mk.injEq] at h
    obtain ⟨⟨commands, s₂⟩, hcommands, -, rfl⟩ := h
    have hc := Command.length_lt_of_read hcommand
    have hs := stream.length_skipSemicolons_le
    have := ih hcommands
    simp only at this ⊢
    omega

theorem length_le_of_read {clock : Clock} {stream rest : TokenStream} {block : Block}
    (h : read clock stream = .ok (block, rest)) : rest.length ≤ stream.length := by
  unfold read at h
  split at h
  · exact Nat.le_of_lt (Nat.lt_succ_of_lt (length_lt_of_readCommands h))
  · cases h
    exact Nat.le_refl _

end Block

namespace Rule

def read (clock : Clock) (stream : TokenStream) : Except ScriptError (Rule × TokenStream) :=
  match stream with
  | .cons (.mark .openBrace) _ rest => do
    let (block, rest) ← Block.readCommands clock rest
    return (⟨none, block⟩, rest)
  | stream => do
    let (selection, rest) ← Expr.readSelection clock stream
    let (block, rest) ← Block.read clock rest
    return (⟨some selection, block⟩, rest)

theorem length_lt_of_read {clock : Clock} {stream rest : TokenStream} {rule : Rule}
    (h : read clock stream = .ok (rule, rest)) : rest.length < stream.length := by
  unfold read at h
  split at h
  · simp only [bind_eq_ok, pure_eq_ok, Prod.mk.injEq] at h
    obtain ⟨⟨block, s₁⟩, hblock, -, rfl⟩ := h
    exact Nat.lt_succ_of_lt (Block.length_lt_of_readCommands hblock)
  · simp only [bind_eq_ok, pure_eq_ok, Prod.mk.injEq] at h
    obtain ⟨⟨selection, s₁⟩, hselection, ⟨block, s₂⟩, hblock, -, rfl⟩ := h
    exact Nat.lt_of_le_of_lt (Block.length_le_of_read hblock)
      (Expr.length_lt_of_readSelection hselection)

end Rule

namespace Program

/-- Rules up to the end of the script. -/
def read (clock : Clock) (stream : TokenStream) : Except ScriptError Program :=
  match _h : stream.skipSemicolons with
  | .finish _ => .ok []
  | next =>
    match _h' : Rule.read clock next with
    | .error e => .error e
    | .ok (rule, rest) => do return rule :: (← read clock rest)
termination_by stream.length
decreasing_by
  exact Nat.lt_of_lt_of_le (Rule.length_lt_of_read _h') (_h ▸ stream.length_skipSemicolons_le)

/-- The program that a script spells. -/
def ofScript (clock : Clock) (script : Text) : Except ScriptError Program :=
  read clock (.ofScript script)

end Program

end LineFilter
