import LineFilter.Proofs.Evaluation.Command

/-!
# Blocks up to their first failure

What a block writes is the texts of the commands in front of the first that
fails, and nothing of that one or of those behind it. An output that refuses
text makes the first command with something to write the one that fails.
-/

namespace LineFilter.Block

/-- How far a block gets: the texts of all of its commands, or of those in front
of the first that fails, and why that one does. -/
inductive Reaches (env : Environment) (block : Block) : List Text → Option EvalError → Prop
  | finish {texts} : List.Forall₂ (Command.Writes env) block texts → Reaches env block texts none
  | failure {before command after texts cause} : block = before ++ command :: after →
      List.Forall₂ (Command.Writes env) before texts → command.Fails env cause →
      Reaches env block texts (some cause)

/-- A command with something to write stands in front of all that fail. -/
def SpeaksFirst (env : Environment) (block : Block) : Prop :=
  ∃ before command after, block = before ++ command :: after ∧
    (∀ other ∈ before, ∃ text, other.Writes env text) ∧ command.Speaks env

variable {env : Environment} {block before rest : Block} {command : Command} {text : Text}
  {texts : List Text} {failure : Option EvalError} {cause : EvalError}

theorem exists_reaches (env : Environment) (block : Block) :
    ∃ texts failure, block.Reaches env texts failure := by
  induction block with
  | nil => exact ⟨[], none, .finish .nil⟩
  | cons command rest ih =>
    rcases command.writes_or_fails env with ⟨text, htext⟩ | ⟨cause, hcause⟩
    · obtain ⟨texts, failure, h⟩ := ih
      refine ⟨text :: texts, failure, ?_⟩
      cases h with
      | finish htexts => exact .finish (.cons htext htexts)
      | failure hrest htexts hcause =>
        exact .failure (by rw [hrest]; rfl) (.cons htext htexts) hcause
    · exact ⟨[], some cause, .failure rfl .nil hcause⟩

-- ---------------------------------------------------------------------------
-- One command
-- ---------------------------------------------------------------------------

theorem run_cons_of_fails (output : Output) (h : command.Fails env cause) :
    Block.run output env (command :: rest) = ⟨[], some cause⟩ := by
  rw [run, Command.text_eq_error_iff.mpr h]
  rfl

theorem run_accepting_cons (h : command.Writes env text) :
    Block.run .accepting env (command :: rest) =
      ⟨text ++ (rest.run .accepting env).text, (rest.run .accepting env).failure⟩ := by
  rw [run, Command.text_eq_ok_iff.mpr h]
  rfl

theorem run_closed_cons (h : command.Writes env text) :
    Block.run .closed env (command :: rest) =
      if text = [] then rest.run .closed env else ⟨[], some .closedOutput⟩ := by
  rw [run, Command.text_eq_ok_iff.mpr h]
  by_cases hempty : text = []
  · simp [hempty, bind, Except.bind, Output.write]
  · simp [hempty, bind, Except.bind, Output.write]

theorem not_speaksFirst_of_fails (h : command.Fails env cause) :
    ¬ SpeaksFirst env (command :: rest) := by
  rintro ⟨before, other, after, heq, hbefore, hother⟩
  cases before with
  | nil =>
    obtain ⟨rfl, rfl⟩ := List.cons.inj heq
    obtain ⟨text, htext, -⟩ := Command.speaks_iff.mp hother
    exact htext.not_fails h
  | cons _ before =>
    obtain ⟨rfl, rfl⟩ := List.cons.inj heq
    obtain ⟨text, htext⟩ := hbefore _ List.mem_cons_self
    exact htext.not_fails h

theorem speaksFirst_cons (h : command.Writes env text) :
    SpeaksFirst env (command :: rest) ↔ text ≠ [] ∨ rest.SpeaksFirst env := by
  constructor
  · rintro ⟨before, other, after, heq, hbefore, hother⟩
    cases before with
    | nil =>
      obtain ⟨rfl, rfl⟩ := List.cons.inj heq
      obtain ⟨text', htext', hne⟩ := Command.speaks_iff.mp hother
      exact .inl (h.unique htext' ▸ hne)
    | cons _ before =>
      obtain ⟨rfl, rfl⟩ := List.cons.inj heq
      exact .inr ⟨before, other, after, rfl, (List.forall_mem_cons.mp hbefore).2, hother⟩
  · rintro (hne | ⟨before, other, after, rfl, hbefore, hother⟩)
    · exact ⟨[], command, rest, rfl, List.forall_mem_nil _, Command.speaks_iff.mpr ⟨text, h, hne⟩⟩
    · exact ⟨command :: before, other, after, rfl, List.forall_mem_cons.mpr ⟨⟨text, h⟩, hbefore⟩,
        hother⟩

-- ---------------------------------------------------------------------------
-- All of them
-- ---------------------------------------------------------------------------

theorem run_accepting_append (h : List.Forall₂ (Command.Writes env) before texts) (rest : Block) :
    Block.run .accepting env (before ++ rest) =
      ⟨texts.flatten ++ (rest.run .accepting env).text, (rest.run .accepting env).failure⟩ := by
  induction h with
  | nil => rfl
  | cons htext _ ih =>
    rw [List.cons_append, run_accepting_cons htext, ih, List.flatten_cons, List.append_assoc]

theorem Reaches.run (h : block.Reaches env texts failure) :
    block.run .accepting env = ⟨texts.flatten, failure⟩ := by
  cases h with
  | finish htexts =>
    have hrun := run_accepting_append htexts []
    rwa [List.append_nil, Block.run, List.append_nil] at hrun
  | failure hblock htexts hcause =>
    rw [hblock, run_accepting_append htexts, run_cons_of_fails .accepting hcause, List.append_nil]

theorem run_closed_of_speaksFirst (h : block.SpeaksFirst env) :
    block.run .closed env = ⟨[], some .closedOutput⟩ := by
  induction block with
  | nil =>
    obtain ⟨before, command, after, hnil, -⟩ := h
    exact absurd hnil (by simp)
  | cons command rest ih =>
    rcases command.writes_or_fails env with ⟨text, htext⟩ | ⟨cause, hcause⟩
    · rw [run_closed_cons htext]
      split_ifs with hempty
      · exact ih (((speaksFirst_cons htext).mp h).resolve_left fun hne => hne hempty)
      · rfl
    · exact absurd h (not_speaksFirst_of_fails hcause)

/-- Where nothing is written, it does not matter that the output is closed. -/
theorem run_closed_of_not_speaksFirst (h : ¬ block.SpeaksFirst env) :
    block.run .closed env = block.run .accepting env ∧ (block.run .closed env).text = [] ∧
      (block.run .closed env).failure ≠ some .closedOutput := by
  induction block with
  | nil => exact ⟨rfl, rfl, nofun⟩
  | cons command rest ih =>
    rcases command.writes_or_fails env with ⟨text, htext⟩ | ⟨cause, hcause⟩
    · rw [speaksFirst_cons htext, not_or, not_not] at h
      obtain ⟨rfl, hrest⟩ := h
      obtain ⟨hsame, hsilent, hfailure⟩ := ih hrest
      rw [run_closed_cons htext, if_pos rfl, run_accepting_cons htext]
      exact ⟨hsame, hsilent, hfailure⟩
    · rw [run_cons_of_fails .closed hcause, run_cons_of_fails .accepting hcause]
      refine ⟨rfl, rfl, ?_⟩
      rintro ⟨⟩
      exact Command.not_fails_closedOutput hcause

/-- What a block comes to, on an output that takes all text and on one that
refuses all but the empty one. -/
structure StopsAtFirstFailure (env : Environment) (block : Block) : Prop where
  reaches : ∃ texts failure, block.Reaches env texts failure
  accepting : ∀ texts failure, block.Reaches env texts failure →
    block.run .accepting env = ⟨texts.flatten, failure⟩
  silent : (block.run .closed env).text = []
  refused : (block.run .closed env).failure = some .closedOutput ↔ block.SpeaksFirst env
  closed : ¬ block.SpeaksFirst env → block.run .closed env = block.run .accepting env

/-- A block writes the texts of the commands in front of the first that fails,
for every reason to fail. -/
theorem stopsAtFirstFailure (env : Environment) (block : Block) :
    block.StopsAtFirstFailure env where
  reaches := exists_reaches env block
  accepting _ _ := Reaches.run
  silent := by
    by_cases h : block.SpeaksFirst env
    · rw [run_closed_of_speaksFirst h]
    · exact (run_closed_of_not_speaksFirst h).2.1
  refused := by
    refine ⟨fun hfailure => ?_, fun h => by rw [run_closed_of_speaksFirst h]⟩
    by_contra h
    exact (run_closed_of_not_speaksFirst h).2.2 hfailure
  closed h := (run_closed_of_not_speaksFirst h).1

end LineFilter.Block
