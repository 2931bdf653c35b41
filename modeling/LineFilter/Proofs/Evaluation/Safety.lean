import LineFilter.Proofs.Evaluation.Block
import LineFilter.Proofs.Evaluation.Command
import LineFilter.Proofs.Evaluation.Shape
import LineFilter.Proofs.Run.Sequence
import LineFilter.Run.Input

/-!
# Programs from scripts do not go wrong

The selection of a rule from a script is true or false on every line, and its
block fails only at a command that does not exist or at an output that refuses
its text. So a program that only prints runs to the end of every input.
-/

namespace LineFilter

/-- The failure of one of the commands of a block that is neither `print` nor
`println`. -/
def Block.Unknown (block : Block) (cause : EvalError) : Prop :=
  ∃ command ∈ block, command.name ≠ "print".toList ∧ command.name ≠ "println".toList ∧
    cause = .unknownCommand command.name command.place

namespace Rule

/-- The rule that selects the lines that this one does not, if it has a selection. -/
def negated (rule : Rule) : Rule := { rule with selection := rule.selection.map .not }

/-- What can go wrong with a rule: nothing in its selection, and two things in
its block. -/
structure Safe (rule : Rule) : Prop where
  selects : ∀ env, ∃ selected, rule.selects env = .ok selected
  negated : rule.selection ≠ none → ∀ env selected,
    rule.selects env = .ok selected → rule.negated.selects env = .ok !selected
  runs : ∀ output env cause, (rule.block.run output env).failure = some cause →
    rule.block.Unknown cause ∨ output = .closed ∧ cause = .closedOutput
  writes : ∀ (σ : Type) (writer : Writer σ) env s cause,
    (rule.block.writeTo writer env s).2 = some cause →
      rule.block.Unknown cause ∨ cause = .closedOutput

variable {rule : Rule} {env : Environment}

theorem selects_of_eval {selection : Expr} {holds : Bool} (h : rule.selection = some selection)
    (he : selection.eval env = .ok (.truth holds)) : rule.selects env = .ok holds := by
  rw [Rule.selects, h]
  simp only [he]
  rfl

namespace Meaningful

theorem selects (h : rule.Meaningful) (env : Environment) :
    ∃ selected, rule.selects env = .ok selected := by
  cases hs : rule.selection with
  | none => exact ⟨true, by rw [Rule.selects, hs]⟩
  | some selection =>
    obtain ⟨holds, he⟩ := h.selection selection hs env
    exact ⟨holds, selects_of_eval hs he⟩

theorem negated (h : rule.Meaningful) {selected : Bool} (hs : rule.selection ≠ none)
    (hselected : rule.selects env = .ok selected) : rule.negated.selects env = .ok !selected := by
  obtain ⟨selection, hselection⟩ := Option.ne_none_iff_exists'.mp hs
  obtain ⟨holds, he⟩ := h.selection selection hselection env
  rw [selects_of_eval hselection he] at hselected
  cases hselected
  have hnegated : rule.negated.selection = some (.not selection) := by
    rw [Rule.negated, hselection, Option.map_some]
  exact selects_of_eval hnegated (Expr.eval_not he)

theorem unknown (h : rule.Meaningful) {cause : EvalError}
    (hcause : ∃ command ∈ rule.block, command.text env = .error cause) :
    rule.block.Unknown cause := by
  obtain ⟨command, hmem, htext⟩ := hcause
  obtain ⟨⟨hprint, hprintln⟩, heq⟩ :=
    Command.unknown_of_text_eq_error (fun e he => h.params command hmem e he env) htext
  exact ⟨command, hmem, hprint, hprintln, heq⟩

theorem safe (h : rule.Meaningful) : rule.Safe where
  selects := h.selects
  negated hs _ _ hselected := h.negated hs hselected
  runs output env cause hcause := by
    rcases Block.cause_of_run hcause with hcommand | ⟨heq, hclosed⟩
    · exact .inl (h.unknown hcommand)
    · exact .inr ⟨hclosed, heq⟩
  writes σ writer env s cause hcause := by
    rcases Block.cause_of_writeTo hcause with hcommand | ⟨heq, -⟩
    · exact .inl (h.unknown hcommand)
    · exact .inr heq

end Meaningful

end Rule

-- ---------------------------------------------------------------------------
-- Runs
-- ---------------------------------------------------------------------------

/-- Has come to its end, and passed over nothing on the way. -/
structure Transcript.Clean (t : Transcript) : Prop where
  failure : t.failure = none
  errors : t.tally.errors = 0

namespace Transcript.Clean

variable {a b : Transcript}

theorem empty : Clean empty := ⟨rfl, rfl⟩

theorem followedBy (ha : Clean a) (hb : Clean b) : Clean (a.followedBy b) := by
  rw [followedBy_of_passed ha.failure]
  refine ⟨hb.failure, ?_⟩
  rw [Tally.errors_plus, ha.errors, hb.errors]

theorem sequence {parts : List Transcript} (h : ∀ t ∈ parts, Clean t) : Clean (sequence parts) :=
  sequence_induction .empty (fun _ _ => followedBy) h

theorem wrote (text : Text) : Clean (wrote text) := ⟨rfl, rfl⟩

theorem counted (lines selected unreadable : Nat) :
    Clean (counted ⟨lines, selected, 0, unreadable⟩) := ⟨rfl, rfl⟩

end Transcript.Clean

/-- All commands of a block print. -/
def Block.OnlyPrints (block : Block) : Prop :=
  ∀ command ∈ block, command.name = "print".toList ∨ command.name = "println".toList

instance (block : Block) : Decidable block.OnlyPrints :=
  inferInstanceAs (Decidable (∀ command ∈ block, _))

def Program.OnlyPrints (program : Program) : Prop := ∀ rule ∈ program, rule.block.OnlyPrints

instance (program : Program) : Decidable program.OnlyPrints :=
  inferInstanceAs (Decidable (∀ rule ∈ program, _))

theorem Block.OnlyPrints.not_unknown {block : Block} {cause : EvalError} (h : block.OnlyPrints) :
    ¬ block.Unknown cause := by
  rintro ⟨command, hmem, hprint, hprintln, -⟩
  rcases h command hmem with hname | hname
  · exact hprint hname
  · exact hprintln hname

namespace Rule

variable {rule : Rule}

theorem Meaningful.failure_printed (h : rule.Meaningful) (hp : rule.block.OnlyPrints)
    (mode : Mode) (env : Environment) : (rule.printed mode env).failure = none := by
  cases mode with
  | report => rfl
  | execute =>
    cases hcause : (rule.block.run .accepting env).failure with
    | none => exact hcause
    | some cause =>
      rcases h.safe.runs _ _ _ hcause with hunknown | ⟨⟨⟩, -⟩
      exact absurd hunknown hp.not_unknown

theorem Meaningful.clean_apply (h : rule.Meaningful) (hp : rule.block.OnlyPrints)
    (options : Options) (env : Environment) : (rule.apply options env).Clean := by
  obtain ⟨selected, hselected⟩ := h.selects env
  cases selected with
  | false =>
    rw [apply_of_false hselected]
    exact .empty
  | true =>
    rw [apply_of_true hselected, act_eq, h.failure_printed hp]
    exact (Transcript.Clean.counted 0 1 0).followedBy ((Transcript.Clean.wrote _).followedBy .empty)

end Rule

namespace Program

theorem clean_entry (options : Options) (env : Environment) (row : Row) (program : Program) :
    (program.entry options env row).Clean := by
  obtain ⟨policy, mode⟩ := options
  cases mode with
  | execute => exact .empty
  | report => exact .wrote _

variable {program : Program} (options : Options) (clock : Clock)

theorem clean_runLine (hm : ∀ rule ∈ program, rule.Meaningful) (hp : program.OnlyPrints)
    (number : Nat) (line : Text) : (program.runLine options clock number line).Clean := by
  rw [runLine_eq]
  refine (Transcript.Clean.counted 1 0 0).followedBy (.followedBy (.sequence ?_) ?_)
  · intro t ht
    obtain ⟨rule, hrule, rfl⟩ := List.mem_map.mp ht
    exact (hm rule hrule).clean_apply (hp rule hrule) options _
  · exact clean_entry options _ _ program

/-- A program from a script is safe in all its rules, and one that only prints
comes to the end of every input. -/
theorem ofScript_safe {clock : Clock} {script : Text} {program : Program}
    (h : ofScript clock script = .ok program) :
    (∀ rule ∈ program, rule.Safe) ∧
      (program.OnlyPrints → ∀ mode moment octets,
        (program.runOctets ⟨.abort, mode⟩ moment octets).Clean) := by
  have hm := meaningful_of_ofScript h
  refine ⟨fun rule hrule => (hm rule hrule).safe, ?_⟩
  intro hp mode moment octets
  refine .sequence ?_
  intro t ht
  obtain ⟨⟨line, number⟩, -, rfl⟩ := List.mem_map.mp ht
  exact clean_runLine ⟨.abort, mode⟩ moment hm hp number line

/-- Compares a name with what it stands for, and part of it with a number. -/
def loopScript : Text := "!(!a[1:] <= b < 0x2) \x7b print(a == now) \x7d; /x/".toList

/-- Two names that stand for each other. -/
def loop : Environment :=
  ⟨⟨0, 0, .utc⟩, none, [(['a'], .variable ['b']), (['b'], .variable ['a'])]⟩

theorem ofScript_safe_loop :
    ∃ program, ofScript ⟨0, 0, .utc⟩ loopScript = .ok program ∧ program.OnlyPrints ∧
      (∀ rule ∈ program, ∃ selected, rule.selects loop = .ok selected ∧
        rule.negated.selects loop = .ok !selected) ∧
      (program.runOctets ⟨.abort, .execute⟩ ⟨0, 0, .utc⟩ [120, 13, 10, 255]).Clean := by
  have hscript : (ofScript ⟨0, 0, .utc⟩ loopScript).toOption.any fun program =>
      program.OnlyPrints ∧ ∀ rule ∈ program, rule.selection ≠ none := by
    decide +kernel
  cases hp : ofScript ⟨0, 0, .utc⟩ loopScript with
  | error cause => simp [hp, Except.toOption] at hscript
  | ok program =>
    rw [hp] at hscript
    obtain ⟨hprints, hselection⟩ := of_decide_eq_true hscript
    obtain ⟨hsafe, hclean⟩ := ofScript_safe hp
    refine ⟨program, rfl, hprints, ?_, hclean hprints .execute _ _⟩
    intro rule hrule
    obtain ⟨selected, hselected⟩ := (hsafe rule hrule).selects loop
    exact ⟨selected, hselected, (hsafe rule hrule).negated (hselection rule hrule) loop _ hselected⟩

end Program

end LineFilter
