import LineFilter.Proofs.Script.Failure
import LineFilter.Proofs.Script.Scanning
import LineFilter.Proofs.Script.Spelling

/-!
# Progress through a script

The loops that read a script have no counter: each goes on until it finds what
ends it. Each of their turns takes a token, leaves the loop or fails, and a
token takes at least one character, so there are at most as many turns as the
script has characters, and one more.
-/

namespace LineFilter

-- ---------------------------------------------------------------------------
-- Loops
-- ---------------------------------------------------------------------------

/-- What one turn of a loop does: it goes on from another state and puts
something to what comes of that, it leaves with a result, or it fails. -/
inductive Turn (σ ε β : Type)
  | again (put : β → β) (next : σ)
  | leave (result : β)
  | fail (error : ε)

variable {σ ε β : Type}

/-- The turns of a loop up to a number of them, if it has left or failed by then. -/
def loop (turn : σ → Turn σ ε β) : Nat → σ → Option (Except ε β)
  | 0, _ => none
  | n + 1, state =>
    match turn state with
    | .again put next => (loop turn n next).map (Except.map put)
    | .leave result => some (.ok result)
    | .fail error => some (.error error)

/-- What comes of a turn when `f` tells what comes of the others. -/
def Turn.result (f : σ → Except ε β) : Turn σ ε β → Except ε β
  | .again put next => (f next).map put
  | .leave result => .ok result
  | .fail error => .error error

/-- A loop whose state gets smaller with every turn ends, with what its equation
tells. -/
theorem loop_eq_some {turn : σ → Turn σ ε β} {f : σ → Except ε β} (size : σ → Nat)
    (hf : ∀ state, f state = (turn state).result f)
    (hsize : ∀ state put next, turn state = .again put next → size next < size state)
    {n : Nat} {state : σ} (hn : size state < n) : loop turn n state = some (f state) := by
  induction n generalizing state with
  | zero => exact absurd hn (Nat.not_lt_zero _)
  | succ n ih =>
    rw [loop, hf state]
    cases hturn : turn state with
    | again put next =>
      have hnext := hsize state put next hturn
      simp only [ih (by omega : size next < n), Option.map_some, Turn.result]
    | leave result => rfl
    | fail error => rfl

-- ---------------------------------------------------------------------------
-- Tokens
-- ---------------------------------------------------------------------------

namespace Scanner

/-- One more token, up to the end of the script. -/
def tokenTurn (s : Scanner) : Turn Scanner LexError (List Token) :=
  match s.next.found with
  | .error error => .fail error
  | .ok none => .leave []
  | .ok (some token) => .again (token :: ·) s.next.after

/-- The tokens from here on, if all of the script reads. -/
def tokens (s : Scanner) : Except LexError (List Token) :=
  let stream := TokenStream.ofCursor s.cursor
  stream.ending.map fun _ => stream.tokens

theorem tokens_eq (s : Scanner) : s.tokens = s.tokenTurn.result tokens := by
  have hstep := s.next_spec.1
  rw [tokens, tokenTurn]
  cases hfound : s.next.found with
  | error error =>
    rw [Reading.step, hfound] at hstep
    rw [TokenStream.ofCursor_fault hstep.symm]
    rfl
  | ok found =>
    rw [Reading.step, hfound] at hstep
    cases found with
    | none =>
      rw [TokenStream.ofCursor_finish hstep.symm]
      rfl
    | some token =>
      rw [TokenStream.ofCursor_read hstep.symm]
      simp only [TokenStream.ending, TokenStream.tokens, Turn.result, tokens]
      cases (TokenStream.ofCursor s.next.after.cursor).ending <;> rfl

theorem remaining_lt_of_tokenTurn {s next : Scanner} {put : List Token → List Token}
    (h : s.tokenTurn = .again put next) : next.rest.length < s.rest.length := by
  unfold tokenTurn at h
  split at h
  · cases h
  · cases h
  · rename_i token hfound
    cases h
    obtain ⟨hstep, -⟩ := s.next_spec
    simp only [Reading.step, hfound] at hstep
    exact Cursor.length_after_lt_of_next hstep.symm

theorem loop_tokenTurn {s : Scanner} {n : Nat} (hn : s.rest.length < n) :
    loop tokenTurn n s = some s.tokens :=
  loop_eq_some (·.rest.length) tokens_eq (fun _ _ _ => remaining_lt_of_tokenTurn) hn

end Scanner

/-- There are no more tokens than characters. -/
theorem TokenStream.length_ofCursor_le (cursor : Cursor) :
    (ofCursor cursor).length ≤ cursor.rest.length := by
  fun_induction ofCursor cursor with
  | case1 | case2 => exact Nat.zero_le _
  | case3 cursor token place after h ih =>
    exact Nat.lt_of_le_of_lt ih (Cursor.length_after_lt_of_next h)

-- ---------------------------------------------------------------------------
-- Readers
-- ---------------------------------------------------------------------------

open TokenStream

variable {clock : Clock} {stream rest : TokenStream}

namespace TokenStream

/-- At least one token is taken off a stream. -/
def AdvancesTo (stream rest : TokenStream) : Prop :=
  ∃ taken, taken ≠ [] ∧ stream = rest.behind taken

theorem AdvancesTo.length_lt (h : stream.AdvancesTo rest) : rest.length < stream.length := by
  obtain ⟨taken, hne, rfl⟩ := h
  have hpos := List.length_pos_iff.mpr hne
  rw [length_behind]
  omega

theorem AdvancesTo.behind {next : TokenStream} (h : next.AdvancesTo rest)
    (tokens : List Grammar.Placed) (hs : stream = next.behind tokens) :
    stream.AdvancesTo rest := by
  obtain ⟨taken, hne, rfl⟩ := h
  refine ⟨tokens ++ taken, by simp [hne], ?_⟩
  rw [hs, behind_append]

/-- Semicolons in front of what is taken are taken too. -/
theorem AdvancesTo.ofSkip (h : stream.skipSemicolons.AdvancesTo rest) : stream.AdvancesTo rest := by
  obtain ⟨gap, -, hstream⟩ := stream.skipSemicolons_sound
  exact h.behind gap hstream

end TokenStream

/-- What a reader took off a stream that got shorter is a token at least. -/
theorem Local.advances {α : Type} {read : Reader α} {item : α} (hlocal : Local clock read stream)
    (h : read stream = .ok (item, rest)) (hlt : rest.length < stream.length) :
    stream.AdvancesTo rest := by
  obtain ⟨tokens, rfl, -⟩ := hlocal.takes item rest h
  refine ⟨tokens, ?_, rfl⟩
  rintro rfl
  exact Nat.lt_irrefl _ hlt

theorem Expr.advances_of_readSelection {e : Expr}
    (h : readSelection clock stream = .ok (e, rest)) : stream.AdvancesTo rest :=
  readSelection_local.advances h (length_lt_of_readSelection h)

theorem Expr.advances_of_readParam {e : Expr} (h : readParam clock stream = .ok (e, rest)) :
    stream.AdvancesTo rest :=
  readParam_local.advances h (length_lt_of_readParam h)

theorem Command.advances_of_read {command : Command}
    (h : read clock stream = .ok (command, rest)) : stream.AdvancesTo rest :=
  read_local.advances h (length_lt_of_read h)

theorem Rule.advances_of_read {rule : Rule} (h : read clock stream = .ok (rule, rest)) :
    stream.AdvancesTo rest :=
  read_local.advances h (length_lt_of_read h)

/-- On from a stream, unless it begins with a text that is no token. -/
def Turn.onward (put : β → β) (rest : TokenStream) : Turn TokenStream ScriptError β :=
  match rest.ready with
  | .ok rest => .again put rest
  | .error error => .fail error

/-- Out of a loop in front of a stream, unless it begins with a text that is no
token. -/
def Turn.outward (result : TokenStream → β) (rest : TokenStream) :
    Turn TokenStream ScriptError β :=
  match rest.ready with
  | .ok rest => .leave (result rest)
  | .error error => .fail error

/-- A loop over a stream with what comes of it: each of its turns takes a token,
leaves or fails, and so it ends, after no more turns than there are tokens and one. -/
structure Ends (turn : TokenStream → Turn TokenStream ScriptError β)
    (f : TokenStream → Except ScriptError β) : Prop where
  advances : ∀ stream put next, turn stream = .again put next → stream.AdvancesTo next
  ends : ∀ stream n, stream.length < n → loop turn n stream = some (f stream)

theorem Ends.of_turns {turn : TokenStream → Turn TokenStream ScriptError β}
    {f : TokenStream → Except ScriptError β} (hf : ∀ stream, f stream = (turn stream).result f)
    (hadvances : ∀ stream put next, turn stream = .again put next → stream.AdvancesTo next) :
    Ends turn f where
  advances := hadvances
  ends _ _ :=
    loop_eq_some length hf fun stream put next h => (hadvances stream put next h).length_lt

theorem Turn.result_onward {f : TokenStream → Except ScriptError β}
    (hf : ∀ error, f (.fault error) = .error (.lexical error)) (put : β → β)
    (rest : TokenStream) : (onward put rest).result f = (f rest).map put := by
  cases rest with
  | fault error =>
    rw [hf]
    rfl
  | finish | cons => rfl

theorem Turn.advances_of_onward {put put' : β → β} {token : Token} {place : Position}
    {next : TokenStream} (h : onward put rest = .again put' next) :
    (cons token place rest).AdvancesTo next := by
  cases rest <;> cases h <;> exact ⟨[(token, place)], List.cons_ne_nil _ _, rfl⟩

/-- On behind what a reader reads, which is put to the rest. -/
def Turn.reading {α : Type} (read : Reader α) (put : α → β → β) (stream : TokenStream) :
    Turn TokenStream ScriptError β :=
  match read stream with
  | .error error => .fail error
  | .ok (item, rest) => .again (put item) rest

theorem Turn.result_reading {α : Type} {read : Reader α} (put : α → β → β)
    (f : TokenStream → Except ScriptError β) :
    (reading read put stream).result f =
      read stream >>= fun (item, rest) => (f rest).map (put item) := by
  unfold reading
  cases read stream <;> rfl

theorem Turn.advances_of_reading {α : Type} {read : Reader α} {put : α → β → β} {put' : β → β}
    (hread : ∀ item rest, read stream = .ok (item, rest) → stream.AdvancesTo rest)
    (h : reading read put stream = .again put' rest) : stream.AdvancesTo rest := by
  unfold reading at h
  split at h
  · cases h
  · rename_i item next hitem
    cases h
    exact hread item rest hitem

-- ---------------------------------------------------------------------------
-- The loops of the readers
-- ---------------------------------------------------------------------------

/-- Semicolons are skipped up to the first other token. -/
def TokenStream.semicolonTurn : TokenStream → Turn TokenStream ScriptError TokenStream
  | .cons (.mark .semicolon) _ rest => .onward id rest
  | stream => .outward id stream

theorem TokenStream.semicolons_end : Ends semicolonTurn (·.skipSemicolons.ready) := by
  refine .of_turns (fun stream => ?_) fun stream put next h => ?_
  · unfold semicolonTurn
    split
    · rename_i place rest
      rw [Turn.result_onward fun _ => rfl, skipSemicolons]
      cases rest.skipSemicolons.ready <;> rfl
    · rename_i hnone
      rw [skipSemicolons]
      · cases stream <;> rfl
      · exact hnone
  · unfold semicolonTurn at h
    split at h
    · exact Turn.advances_of_onward h
    · cases stream <;> cases h

/-- A parameter and the comma behind it, or the last parameter. -/
def Command.paramTurn (clock : Clock) (stream : TokenStream) :
    Turn TokenStream ScriptError (List Expr × TokenStream) :=
  match Expr.readParam clock stream with
  | .error error => .fail error
  | .ok (param, .cons (.mark .comma) _ rest) =>
    .onward (fun (params, last) => (param :: params, last)) rest
  | .ok (param, rest) => .leave ([param], rest)

theorem Command.params_end : Ends (paramTurn clock) (readParams clock) := by
  -- The turn fails at a comma in front of a text that is no token, the reader at
  -- the parameter that it misses there, and both with the error of that text.
  have hfault (error : LexError) : readParams clock (.fault error) = .error (.lexical error) := by
    rw [readParams_eq]
    rfl
  refine .of_turns (fun stream => ?_) fun stream put next h => ?_
  · rw [readParams_eq]
    unfold paramTurn
    cases Expr.readParam clock stream with
    | error => rfl
    | ok read =>
      simp only [bind, Except.bind]
      split
      · rename_i param place rest
        simp only [Turn.result_onward hfault]
        cases readParams clock rest <;> rfl
      · rename_i param rest hnone
        split
        · rename_i heq
          cases heq
        · rename_i heq
          cases heq
          exact (hnone _ _ rfl).elim
        · rename_i heq
          cases heq
          rfl
  · unfold paramTurn at h
    split at h
    · cases h
    · rename_i hparam
      obtain ⟨taken, -, hstream⟩ := Expr.advances_of_readParam hparam
      exact (Turn.advances_of_onward h).behind taken hstream
    · cases h

/-- A command with the semicolons in front of it, or the closing brace. -/
def Block.commandTurn (clock : Clock) (stream : TokenStream) :
    Turn TokenStream ScriptError (Block × TokenStream) :=
  match stream.skipSemicolons with
  | .cons (.mark .closeBrace) _ rest => .outward ([], ·) rest
  | next => .reading (Command.read clock)
      (fun command (commands, last) => (command :: commands, last)) next

theorem Block.commands_end : Ends (commandTurn clock) (readCommands clock) := by
  refine .of_turns (fun stream => ?_) fun stream put next h => ?_
  · rw [readCommands_eq]
    unfold commandTurn
    -- Behind the semicolons the turn and the reader look at one stream.
    generalize stream.skipSemicolons = next
    split
    · rename_i place rest
      cases rest <;> rfl
    · rename_i hnone
      rw [readUnspaced, Turn.result_reading]
      · rfl
      · exact hnone
  · unfold commandTurn at h
    split at h
    · rename_i place rest _
      cases rest <;> cases h
    · exact (Turn.advances_of_reading (fun _ _ => Command.advances_of_read) h).ofSkip

/-- A rule with the semicolons in front of it, or the end of the script. -/
def Program.ruleTurn (clock : Clock) (stream : TokenStream) :
    Turn TokenStream ScriptError Program :=
  match stream.skipSemicolons with
  | .finish _ => .leave []
  | next => .reading (Rule.read clock) List.cons next

theorem Program.rules_end : Ends (ruleTurn clock) (read clock) := by
  refine .of_turns (fun stream => ?_) fun stream put next h => ?_
  · rw [read_eq]
    unfold ruleTurn
    generalize stream.skipSemicolons = next
    split
    · rfl
    · rename_i hnone
      rw [readUnspaced, Turn.result_reading]
      · rfl
      · exact hnone
  · unfold ruleTurn at h
    split at h
    · cases h
    · exact (Turn.advances_of_reading (fun _ _ => Rule.advances_of_read) h).ofSkip

-- ---------------------------------------------------------------------------
-- Blocks and calls that are not closed
-- ---------------------------------------------------------------------------

theorem Block.closed_of_readCommands {block : Block}
    (h : readCommands clock stream = .ok (block, rest)) :
    .mark .closeBrace ∈ stream.tokens := by
  obtain ⟨gap, tokens, place, rfl, -⟩ := readCommands_sound h
  have hmem :
      (Token.mark .closeBrace, place) ∈ gap ++ (tokens ++ [(.mark .closeBrace, place)]) := by
    simp
  exact mem_tokens_behind rest hmem

theorem Command.closed_of_readCall {params : List Expr}
    (h : readCall clock stream = .ok (params, rest)) : .mark .closeParen ∈ stream.tokens := by
  unfold readCall at h
  split at h
  · exact List.mem_cons_self
  · simp only [bind_eq_ok, pure_eq_ok, Prod.mk.injEq] at h
    obtain ⟨⟨params, next⟩, hparams, last, hclose, -⟩ := h
    obtain ⟨place, rfl, -⟩ := expect_eq_ok.mp hclose
    obtain ⟨tokens, rfl, -⟩ := readParams_sound hparams rfl
    have hmem : (Token.mark .closeParen, place) ∈ tokens ++ [(Token.mark .closeParen, place)] := by
      simp
    simpa using mem_tokens_behind last hmem

/-- How the scanner of a script goes through it. -/
structure Scanner.Proceeds (script : Text) : Prop where
  within : ∀ s, Reached script s → s.position ≤ script.length
  /-- It finds the tokens of the script, from wherever it stands. -/
  finds : ∀ s, Reached script s → s.next.step = s.cursor.next
  never_back : ∀ s, Reached script s → s.position ≤ s.next.after.position
  forward : ∀ s, Reached script s → ∀ token, s.next.found = .ok (some token) →
    s.position < s.next.after.position
  /-- Each token that is yet to be read has a character of its own. -/
  enough : ∀ s, Reached script s →
    (TokenStream.ofCursor s.cursor).length + s.position ≤ script.length
  ends : ∀ n, script.length < n → loop tokenTurn n (ofScript script) = some (tokenize script)
  count : ∀ tokens, tokenize script = .ok tokens → tokens.length ≤ script.length

/-- How the readers go through the tokens of a script, whatever these are. -/
structure TokenStream.Proceeds (clock : Clock) : Prop where
  selection : ∀ stream e rest, Expr.readSelection clock stream = .ok (e, rest) →
    stream.AdvancesTo rest
  command : ∀ stream command rest, Command.read clock stream = .ok (command, rest) →
    stream.AdvancesTo rest
  rule : ∀ stream rule rest, Rule.read clock stream = .ok (rule, rest) → stream.AdvancesTo rest
  semicolons : Ends semicolonTurn (·.skipSemicolons.ready)
  params : Ends (Command.paramTurn clock) (Command.readParams clock)
  commands : Ends (Block.commandTurn clock) (Block.readCommands clock)
  rules : Ends (Program.ruleTurn clock) (Program.read clock)
  /-- At the end of the script there is a parameter missing. -/
  param_missing : ∀ place, Command.paramTurn clock (.finish place) =
    .fail (.grammar (.expectedValue none) place)
  /-- At the end of the script there is a command missing, or the brace. -/
  command_missing : ∀ stream place, stream.skipSemicolons = .finish place →
    Block.commandTurn clock stream = .fail (.grammar (.expectedCommand none) place)
  /-- Parameters without a parenthesis behind them are an error. -/
  open_call : ∀ stream, .mark .closeParen ∉ stream.tokens →
    ∃ error, Command.readCall clock stream = .error error
  open_block : ∀ stream, .mark .closeBrace ∉ stream.tokens →
    ∃ error, Block.readCommands clock stream = .error error

theorem exists_error {ε α : Type} {x : Except ε α} (h : ∀ a, x ≠ .ok a) : ∃ e, x = .error e := by
  cases x with
  | error e => exact ⟨e, rfl⟩
  | ok a => exact absurd rfl (h a)

theorem Scanner.proceeds (script : Text) : Proceeds script where
  within _ h := h.within.2
  finds s _ := s.next_spec.1
  never_back s _ := by
    obtain ⟨-, passed, hp⟩ := s.next_spec
    exact hp.le
  forward _ _ _ := next_forward
  enough s h := by
    obtain ⟨hscript, hposition⟩ := h.within
    have hlength := TokenStream.length_ofCursor_le s.cursor
    simp only [cursor, length_rest, hscript] at hlength ⊢
    omega
  ends n hn := loop_tokenTurn (by simpa [ofScript, rest] using hn)
  count tokens h := by
    have hlength := TokenStream.length_ofCursor_le (.ofScript script)
    rw [tokenize] at h
    cases hend : (TokenStream.ofScript script).ending with
    | error error =>
      rw [hend] at h
      cases h
    | ok place =>
      rw [hend] at h
      cases h
      rwa [TokenStream.length_tokens]

theorem TokenStream.proceeds (clock : Clock) : Proceeds clock where
  selection _ _ _ := Expr.advances_of_readSelection
  command _ _ _ := Command.advances_of_read
  rule _ _ _ := Rule.advances_of_read
  semicolons := semicolons_end
  params := Command.params_end
  commands := Block.commands_end
  rules := Program.rules_end
  param_missing _ := rfl
  command_missing stream place h := by
    unfold Block.commandTurn
    rw [h]
    rfl
  open_call stream h :=
    exists_error fun _ hok => h (Command.closed_of_readCall hok)
  open_block stream h :=
    exists_error fun _ hok => h (Block.closed_of_readCommands hok)

/-- How a script is read: by a scanner that stays in it, and by readers whose loops
take a token with every turn that does not end them. -/
structure Proceeds (clock : Clock) (script : Text) : Prop where
  scanner : Scanner.Proceeds script
  readers : TokenStream.Proceeds clock
  ends : ∀ n, script.length < n →
    loop (Program.ruleTurn clock) n (.ofScript script) = some (Program.ofScript clock script)

/-- Every script is read to an end, whether it is well formed or not. -/
theorem reading_proceeds (clock : Clock) (script : Text) : Proceeds clock script where
  scanner := Scanner.proceeds script
  readers := TokenStream.proceeds clock
  ends n hn := by
    have hlength := TokenStream.length_ofCursor_le (.ofScript script)
    exact Program.rules_end.ends _ n (Nat.lt_of_le_of_lt hlength hn)

end LineFilter
