import LineFilter.Proofs.Script.Tiling

/-!
# Places moved

A script behind another text has the same tokens at other places, and they mean
the same program but for the places of its commands. The places move together:
the lines of the text are counted to every line, and the characters of its last
line to the columns of the first line.
-/

namespace LineFilter

-- ---------------------------------------------------------------------------
-- Places
-- ---------------------------------------------------------------------------

namespace Position

/-- A place of a script, with a text put in front of the script. -/
def shift (before : Text) (p : Position) : Position :=
  if p.line = 0 then p
  else ⟨p.line + before.count '\n',
    p.column + if p.line = 1 then (before.reverse.takeWhile (· ≠ '\n')).length else 0⟩

variable {before : Text} {p : Position}

theorem shift_implied (before : Text) : shift before .implied = .implied := rfl

theorem shift_start (before : Text) : shift before .start = .behind before := by
  simp [shift, start, behind, Nat.add_comm]

theorem line_step_ne (h : p.line ≠ 0) (c : Char) : (p.step c).line ≠ 0 := by
  unfold step
  split
  · exact Nat.succ_ne_zero _
  · exact h

theorem shift_step (h : p.line ≠ 0) (c : Char) :
    shift before (p.step c) = (shift before p).step c := by
  unfold step
  split
  · simp [shift, h, Nat.add_right_comm]
  · simp [shift, h, Nat.add_right_comm]

/-- Counting on keeps a place moved. -/
theorem shift_after (h : p.line ≠ 0) (text : Text) :
    shift before (p.after text) = (shift before p).after text := by
  induction text generalizing p with
  | nil => rfl
  | cons c text ih => exact (ih (line_step_ne h c)).trans (by rw [shift_step h]; rfl)

end Position

variable {f : Position → Position}

/-- A way of moving places that counting on keeps. -/
def MovesFrom (f : Position → Position) (p : Position) : Prop :=
  ∀ text, f (p.after text) = (f p).after text

theorem MovesFrom.after {p : Position} (h : MovesFrom f p) (text : Text) :
    MovesFrom f (p.after text) := by
  intro more
  rw [← Position.after_append, h, h, Position.after_append]

theorem movesFrom_shift (before : Text) : MovesFrom (Position.shift before) .start :=
  Position.shift_after Nat.one_ne_zero

-- ---------------------------------------------------------------------------
-- Streams
-- ---------------------------------------------------------------------------

def Cursor.moved (f : Position → Position) (cursor : Cursor) : Cursor :=
  { cursor with place := f cursor.place }

def Step.moved (f : Position → Position) : Step → Step
  | .finish place => .finish (f place)
  | .fault error => .fault { error with place := f error.place }
  | .read token place after => .read token (f place) (after.moved f)

namespace TokenStream

def moved (f : Position → Position) : TokenStream → TokenStream
  | .finish place => .finish (f place)
  | .fault error => .fault { error with place := f error.place }
  | .cons token place rest => .cons token (f place) (rest.moved f)

end TokenStream

theorem Cursor.next_moved {cursor : Cursor} (h : MovesFrom f cursor.place) :
    (cursor.moved f).next = cursor.next.moved f := by
  simp only [next, skipGap, moved, ← h (Text.splitGap false cursor.rest).1]
  split
  · rfl
  · split
    · rfl
    · simp only [Step.moved, moved, ← h.after _ _]

theorem Cursor.movesFrom_next {cursor after : Cursor} {token : Token} {place : Position}
    (h : MovesFrom f cursor.place) (hnext : cursor.next = .read token place after) :
    MovesFrom f after.place := by
  have hfinds := cursor.next_finds
  rw [hnext] at hfinds
  cases hfinds
  exact (h.after _).after _

/-- The tokens of a text elsewhere are its tokens with their places moved. -/
theorem TokenStream.ofCursor_moved {cursor : Cursor} (h : MovesFrom f cursor.place) :
    ofCursor (cursor.moved f) = (ofCursor cursor).moved f := by
  fun_induction ofCursor cursor with
  | case1 cursor place hnext =>
    exact ofCursor_finish ((Cursor.next_moved h).trans (congrArg (Step.moved f) hnext))
  | case2 cursor error hnext =>
    exact ofCursor_fault ((Cursor.next_moved h).trans (congrArg (Step.moved f) hnext))
  | case3 cursor token place after hnext ih =>
    rw [ofCursor_read ((Cursor.next_moved h).trans (congrArg (Step.moved f) hnext)),
      ih (Cursor.movesFrom_next h hnext)]
    rfl

-- ---------------------------------------------------------------------------
-- Programs
-- ---------------------------------------------------------------------------

def Command.moved (f : Position → Position) (c : Command) : Command := { c with place := f c.place }

def Rule.moved (f : Position → Position) (rule : Rule) : Rule :=
  { rule with block := rule.block.map (Command.moved f) }

/-- The program with the places of its commands moved. -/
def Program.moved (f : Position → Position) (program : Program) : Program :=
  program.map (Rule.moved f)

theorem Program.withoutPlaces_moved (f : Position → Position) (program : Program) :
    (program.moved f).withoutPlaces = program.withoutPlaces := by
  simp only [withoutPlaces, moved, List.map_map]
  refine List.map_congr_left fun rule _ => ?_
  simp only [Function.comp_apply, Rule.withoutPlaces, Rule.moved, List.map_map]
  rfl

-- ---------------------------------------------------------------------------
-- The grammar
-- ---------------------------------------------------------------------------

namespace Grammar

def moved (f : Position → Position) (tokens : List Placed) : List Placed :=
  tokens.map fun token => (token.1, f token.2)

@[simp] theorem moved_nil : moved f [] = [] := rfl

@[simp] theorem moved_cons (token : Token) (place : Position) (tokens : List Placed) :
    moved f ((token, place) :: tokens) = (token, f place) :: moved f tokens := rfl

@[simp] theorem moved_append (left right : List Placed) :
    moved f (left ++ right) = moved f left ++ moved f right := List.map_append

theorem first_moved (tokens : List Placed) : first (moved f tokens) = first tokens := by
  cases tokens <;> rfl

theorem moved_behind (rest : TokenStream) (tokens : List Placed) :
    (rest.behind tokens).moved f = (rest.moved f).behind (moved f tokens) := by
  induction tokens with
  | nil => rfl
  | cons token tokens ih => exact congrArg (TokenStream.cons token.1 (f token.2)) ih

variable {clock : Clock} {tokens : List Placed} {next : Option Token} {e : Expr}

theorem Semicolons.moved (h : Semicolons tokens) : Semicolons (Grammar.moved f tokens) := by
  intro token ht
  obtain ⟨old, hold, rfl⟩ := List.mem_map.mp ht
  exact h old hold

theorem IsBound.moved {bound : Option Int} (h : IsBound tokens bound) :
    IsBound (Grammar.moved f tokens) bound := by
  cases h with
  | absent => exact .absent
  | present hn => exact .present hn

theorem IsOperand.moved (h : IsOperand clock tokens next e) :
    IsOperand clock (Grammar.moved f tokens) next e := by
  cases h with
  | literal hl => exact .literal hl
  | reference hr hn => exact .reference hr hn
  | slice hr hstarts hstops => simpa using IsOperand.slice hr hstarts.moved hstops.moved

theorem IsSelection.moved (h : IsSelection clock tokens next e) :
    IsSelection clock (Grammar.moved f tokens) next e := by
  induction h with
  | not _ ih => exact .not ih
  | parentheses _ ih => simpa using IsSelection.parentheses ih
  | againstLine ho => exact .againstLine ho.moved
  | pattern hv hc => exact .pattern hv hc
  | comparison hl hr hc => simpa using IsSelection.comparison hl.moved hr.moved hc
  | range hl hm hr => simpa using IsSelection.range hl.moved hm.moved hr.moved

theorem IsParam.moved (h : IsParam clock tokens next e) :
    IsParam clock (Grammar.moved f tokens) next e := by
  cases h with
  | operand ho hc => exact .operand ho.moved hc
  | comparison hl hr => simpa using IsParam.comparison hl.moved hr.moved

theorem IsParams.moved {params : List Expr} (h : IsParams clock tokens params) :
    IsParams clock (Grammar.moved f tokens) params := by
  induction h with
  | one hp => exact .one hp.moved
  | more hp _ ih => simpa using IsParams.more hp.moved ih

theorem IsCommand.moved {c : Command} (h : IsCommand clock tokens c) :
    IsCommand clock (Grammar.moved f tokens) (c.moved f) := by
  cases h with
  | bare => exact .bare
  | call hp => simpa [Command.moved] using IsCommand.call hp.moved

theorem IsCommands.moved {block : Block} (h : IsCommands clock tokens block) :
    IsCommands clock (Grammar.moved f tokens) (block.map (Command.moved f)) := by
  induction h with
  | none => exact .none
  | more hc hgap _ ih => simpa using IsCommands.more hc.moved hgap.moved ih

theorem IsBlock.moved {block : Block} (h : IsBlock clock tokens block) :
    IsBlock clock (Grammar.moved f tokens) (block.map (Command.moved f)) := by
  cases h with
  | braces hgap hc => simpa using IsBlock.braces hgap.moved hc.moved

/-- A block that is not written stays at its place. -/
theorem IsRule.moved {rule : Rule} (hf : f .implied = .implied)
    (h : IsRule clock tokens next rule) :
    IsRule clock (Grammar.moved f tokens) next (rule.moved f) := by
  cases h with
  | block hb => exact .block hb.moved
  | selection hs hn =>
    have hline : Block.printLine.map (Command.moved f) = Block.printLine := by
      simp [Block.printLine, Command.moved, hf]
    rw [Rule.moved, hline]
    exact .selection hs.moved hn
  | both hs hb => simpa [Rule.moved] using IsRule.both hs.moved hb.moved

theorem IsRules.moved {program : Program} (hf : f .implied = .implied)
    (h : IsRules clock tokens program) :
    IsRules clock (Grammar.moved f tokens) (program.moved f) := by
  induction h with
  | none => exact .none
  | @more tokens gap rest rule rules hr hgap _ ih =>
    have hrule := hr.moved hf
    rw [← first_moved (f := f), moved_append] at hrule
    simpa [Program.moved] using IsRules.more hrule hgap.moved ih

theorem IsProgram.moved {program : Program} (hf : f .implied = .implied)
    (h : IsProgram clock tokens program) :
    IsProgram clock (Grammar.moved f tokens) (program.moved f) := by
  cases h with
  | rules hgap hr => simpa using IsProgram.rules hgap.moved (hr.moved hf)

end Grammar

end LineFilter
