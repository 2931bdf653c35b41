import LineFilter.Expr.Evaluation
import LineFilter.Proofs.Script.Sound

/-!
# Expressions in scripts mean something

An expression may be of any shape, and some mean nothing: a value under `!`, or
a value for a selection. The grammar has no such phrase. By induction on
derivations, an operand means a value, a selection a truth value and a
parameter one or the other, in every environment.
-/

namespace LineFilter

-- ---------------------------------------------------------------------------
-- Expressions
-- ---------------------------------------------------------------------------

namespace Expr

variable {env : Environment} {left middle right : Expr} {a b c : Outcome}

@[simp] theorem eval_value (v : Value) : (value v).eval env = .ok (.value (env.resolve v)) := rfl

theorem eval_compare (op : Operator) (ha : left.eval env = .ok a) (hb : right.eval env = .ok b) :
    (compare left op right).eval env = .ok (.truth (op.holds env.clock a.asValue b.asValue)) := by
  simp only [eval, ha, hb]
  rfl

theorem eval_between (slope : Slope) (lower upper : Edge) (ha : left.eval env = .ok a)
    (hb : middle.eval env = .ok b) (hc : right.eval env = .ok c) :
    (between slope left lower middle upper right).eval env =
      .ok (.truth ((slope.operator lower).holds env.clock a.asValue b.asValue &&
        (slope.operator upper).holds env.clock b.asValue c.asValue)) := by
  simp only [eval, ha, hb, hc]
  show (if (slope.operator lower).holds env.clock a.asValue b.asValue = true then _ else _) = _
  cases hlower : (slope.operator lower).holds env.clock a.asValue b.asValue with
  | true => rfl
  | false => rfl

theorem eval_not {holds : Bool} (h : left.eval env = .ok (.truth holds)) :
    (not left).eval env = .ok (.truth !holds) := by
  simp only [eval, h]
  rfl

theorem eval_slice (start stop : Option Int) (ha : left.eval env = .ok a) :
    (slice left start stop).eval env =
      .ok (.value (.untyped (a.asValue.text.slice start stop))) := by
  simp only [eval, ha]
  rfl

/-- Means a truth value in every environment. -/
def Tests (e : Expr) : Prop := ∀ env, ∃ holds, e.eval env = .ok (.truth holds)

/-- Means something in every environment. -/
def Means (e : Expr) : Prop := ∀ env, ∃ outcome, e.eval env = .ok outcome

theorem Tests.means {e : Expr} (h : e.Tests) : e.Means := by
  intro env
  obtain ⟨holds, hh⟩ := h env
  exact ⟨_, hh⟩

theorem Means.compare (hl : left.Means) (hr : right.Means) (op : Operator) :
    (compare left op right).Tests := by
  intro env
  obtain ⟨a, ha⟩ := hl env
  obtain ⟨b, hb⟩ := hr env
  exact ⟨_, eval_compare op ha hb⟩

theorem Means.between (hl : left.Means) (hm : middle.Means) (hr : right.Means) (slope : Slope)
    (lower upper : Edge) : (between slope left lower middle upper right).Tests := by
  intro env
  obtain ⟨a, ha⟩ := hl env
  obtain ⟨b, hb⟩ := hm env
  obtain ⟨c, hc⟩ := hr env
  exact ⟨_, eval_between slope lower upper ha hb hc⟩

theorem Tests.not {e : Expr} (h : e.Tests) : (not e).Tests := by
  intro env
  obtain ⟨holds, hh⟩ := h env
  exact ⟨_, eval_not hh⟩

theorem means_value (v : Value) : (value v).Means := fun _ => ⟨_, eval_value v⟩

theorem means_slice (v : Value) (start stop : Option Int) : (slice (value v) start stop).Means :=
  fun _ => ⟨_, eval_slice start stop (eval_value v)⟩

end Expr

namespace Grammar

variable {clock : Clock} {tokens : List Placed} {next : Option Token} {e : Expr}

theorem IsOperand.means (h : IsOperand clock tokens next e) : e.Means := by
  cases h with
  | literal => exact Expr.means_value _
  | reference => exact Expr.means_value _
  | slice => exact Expr.means_slice _ _ _

theorem IsSelection.tests (h : IsSelection clock tokens next e) : e.Tests := by
  induction h with
  | not _ ih => exact ih.not
  | parentheses _ ih => exact ih
  | againstLine hright => exact (Expr.means_value _).compare hright.means _
  | pattern => exact (Expr.means_value _).compare (Expr.means_value _) _
  | comparison hleft hright => exact hleft.means.compare hright.means _
  | range hleft hmiddle hright => exact hleft.means.between hmiddle.means hright.means _ _ _

theorem IsParam.means (h : IsParam clock tokens next e) : e.Means := by
  cases h with
  | operand h => exact h.means
  | comparison hleft hright => exact (hleft.means.compare hright.means _).means

theorem IsParams.means {params : List Expr} (h : IsParams clock tokens params) :
    ∀ e ∈ params, e.Means := by
  induction h with
  | one h =>
    rintro _ (_ | ⟨_, ⟨⟩⟩)
    exact h.means
  | more h _ ih =>
    rintro e (_ | ⟨_, he⟩)
    · exact h.means
    · exact ih e he

end Grammar

-- ---------------------------------------------------------------------------
-- Rules
-- ---------------------------------------------------------------------------

/-- A rule all of whose expressions mean what is asked of them. -/
structure Rule.Meaningful (rule : Rule) : Prop where
  selection : ∀ e, rule.selection = some e → e.Tests
  params : ∀ command ∈ rule.block, ∀ e ∈ command.params, e.Means

namespace Grammar

variable {clock : Clock} {tokens : List Placed} {next : Option Token}

theorem IsCommand.means {command : Command} (h : IsCommand clock tokens command) :
    ∀ e ∈ command.params, e.Means := by
  cases h with
  | bare => rintro _ ⟨⟩
  | call h => exact h.means

theorem IsCommands.means {block : Block} (h : IsCommands clock tokens block) :
    ∀ command ∈ block, ∀ e ∈ command.params, e.Means := by
  induction h with
  | none => rintro _ ⟨⟩
  | more h _ _ ih =>
    rintro command (_ | ⟨_, hcommand⟩)
    · exact h.means
    · exact ih command hcommand

theorem IsBlock.means {block : Block} (h : IsBlock clock tokens block) :
    ∀ command ∈ block, ∀ e ∈ command.params, e.Means := by
  cases h with
  | braces _ h => exact h.means

theorem means_printLine : ∀ command ∈ Block.printLine, ∀ e ∈ command.params, e.Means := by
  rintro _ (_ | ⟨_, ⟨⟩⟩) _ (_ | ⟨_, ⟨⟩⟩)
  exact Expr.means_value _

theorem IsRule.meaningful {rule : Rule} (h : IsRule clock tokens next rule) : rule.Meaningful := by
  cases h with
  | block hblock => exact ⟨nofun, hblock.means⟩
  | selection he =>
    refine ⟨?_, means_printLine⟩
    rintro _ ⟨⟩
    exact he.tests
  | both he hblock =>
    refine ⟨?_, hblock.means⟩
    rintro _ ⟨⟩
    exact he.tests

theorem IsRules.meaningful {program : Program} (h : IsRules clock tokens program) :
    ∀ rule ∈ program, rule.Meaningful := by
  induction h with
  | none => rintro _ ⟨⟩
  | more h _ _ ih =>
    rintro rule (_ | ⟨_, hrule⟩)
    · exact h.meaningful
    · exact ih rule hrule

end Grammar

theorem Program.meaningful_of_ofScript {clock : Clock} {script : Text} {program : Program}
    (h : ofScript clock script = .ok program) : ∀ rule ∈ program, rule.Meaningful := by
  obtain ⟨tokens, place, -, ht⟩ := read_sound h
  cases ht with
  | rules _ hrules => exact hrules.meaningful

end LineFilter
