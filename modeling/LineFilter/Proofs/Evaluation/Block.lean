import LineFilter.Program.Execution

/-!
# Blocks on any output

A block hands the texts of its commands to its output one after another. What
the output does with them is its own affair: it may keep a state, take part of
a text and refuse the rest. So a block fails for one of two reasons, a command
that has no text or an output that refuses one, and whether a command has a
text is settled before the output sees it.
-/

namespace LineFilter

/-- What takes text: from a state and a text, the next state and whether all of
the text was taken. -/
abbrev Writer (σ : Type) := σ → Text → σ × Bool

/-- The outputs that a block runs on, with the text written so far as state. -/
def Output.writer (output : Output) : Writer Text := fun written text =>
  match output.write text with
  | .ok text => (written ++ text, true)
  | .error _ => (written, false)

namespace Block

/-- Runs a block on a writer: the writer's state in the end, and why the block
stopped early. -/
def writeTo {σ : Type} (writer : Writer σ) (env : Environment) : Block → σ → σ × Option EvalError
  | [], s => (s, none)
  | command :: rest, s =>
    match command.text env with
    | .error cause => (s, some cause)
    | .ok text =>
      match writer s text with
      | (s, true) => writeTo writer env rest s
      | (s, false) => (s, some .closedOutput)

theorem writeTo_writer (output : Output) (env : Environment) (block : Block) (written : Text) :
    block.writeTo output.writer env written =
      (written ++ (block.run output env).text, (block.run output env).failure) := by
  induction block generalizing written with
  | nil => simp [writeTo, run]
  | cons command rest ih =>
    cases htext : command.text env with
    | error cause => simp [writeTo, run, htext, bind, Except.bind]
    | ok text =>
      cases output with
      | accepting =>
        simp [writeTo, run, htext, bind, Except.bind, Output.writer, Output.write, ih,
          List.append_assoc]
      | closed =>
        by_cases hempty : text = []
        · simp [writeTo, run, htext, bind, Except.bind, Output.writer, Output.write, ih, hempty]
        · simp [writeTo, run, htext, bind, Except.bind, Output.writer, Output.write, hempty]

variable {env : Environment} {block : Block} {cause : EvalError}

theorem cause_of_writeTo {σ : Type} {writer : Writer σ} {s : σ}
    (h : (block.writeTo writer env s).2 = some cause) :
    (∃ command ∈ block, command.text env = .error cause) ∨
      cause = .closedOutput ∧ ∃ s text, (writer s text).2 = false := by
  induction block generalizing s with
  | nil => cases h
  | cons command rest ih =>
    simp only [writeTo] at h
    split at h
    · rename_i htext
      cases h
      exact .inl ⟨command, List.mem_cons_self, htext⟩
    · rename_i text htext
      split at h
      · rcases ih h with ⟨other, hmem, hother⟩ | hrefused
        · exact .inl ⟨other, List.mem_cons_of_mem command hmem, hother⟩
        · exact .inr hrefused
      · rename_i hwriter
        cases h
        exact .inr ⟨rfl, s, text, by rw [hwriter]⟩

theorem cause_of_run {output : Output} (h : (block.run output env).failure = some cause) :
    (∃ command ∈ block, command.text env = .error cause) ∨
      cause = .closedOutput ∧ output = .closed := by
  -- A run is a run on the writer that keeps all text, or takes none.
  have hw : (block.writeTo output.writer env []).2 = some cause := by rw [writeTo_writer, h]
  rcases cause_of_writeTo hw with hcommand | ⟨hcause, s, text, hrefused⟩
  · exact .inl hcommand
  · cases output with
    | accepting => cases hrefused
    | closed => exact .inr ⟨hcause, rfl⟩

end Block

end LineFilter
