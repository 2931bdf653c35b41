import LineFilter.Proofs.Run.Inputs
import LineFilter.Proofs.Run.Policies

/-!
# Clean runs

A run that stops at failures gets through an input just when no rule breaks on
any of its lines, and one that goes on always does. A run is clean if it gets
through all of its inputs and all of them can be read.
-/

namespace LineFilter

namespace Rule

variable {mode : Mode} {env : Environment} {rule : Rule}

theorem failure_apply_of_breaks {cause : EvalError} {text : Text}
    (h : rule.Breaks mode env cause text) :
    (rule.apply ⟨.abort, mode⟩ env).failure = some (.rule rule cause) := by
  cases h with
  | selection hselects => rw [apply_of_error hselects]; rfl
  | block hmode hselects hblock =>
    subst hmode
    rw [apply_of_true hselects, act_eq, Transcript.followedBy_of_passed rfl,
      Transcript.followedBy_of_passed rfl]
    simp only [printed, hblock, Option.elim_some]
    rfl

theorem failure_apply_eq_none :
    (rule.apply ⟨.abort, mode⟩ env).failure = none ↔
      ∀ cause text, ¬ rule.Breaks mode env cause text := by
  constructor
  · intro h cause text hbreaks
    rw [failure_apply_of_breaks hbreaks] at h
    cases h
  · intro h
    refine Option.eq_none_iff_forall_ne_some.mpr fun failure hfailure => ?_
    obtain ⟨cause, text, -, hbreaks, -⟩ := breaks_of_failure_apply hfailure
    exact h cause text hbreaks

end Rule

namespace Program

variable {mode : Mode} {clock : Clock} {program : Program} {octets : Octets}

/-- No rule breaks on a line of the input. -/
def Holds (mode : Mode) (clock : Clock) (program : Program) (octets : Octets) : Prop :=
  ∀ number line, octets.lines[number]? = some line → ∀ rule ∈ program, ∀ cause text,
    ¬ rule.Breaks mode (.ofLine clock number line) cause text

theorem failure_runLine_eq_none {number : Nat} {line : Text} :
    (program.runLine ⟨.abort, mode⟩ clock number line).failure = none ↔
      ∀ rule ∈ program, ∀ cause text,
        ¬ rule.Breaks mode (.ofLine clock number line) cause text := by
  have hentry : (program.entry ⟨.abort, mode⟩ (.ofLine clock number line)
      (.ofLine number line)).failure = none := by
    cases mode <;> rfl
  rw [runLine_eq, Transcript.followedBy_of_passed rfl, Transcript.failure_followedBy_eq_none,
    Transcript.failure_sequence_eq_none, and_iff_left hentry]
  exact forall₂_congr fun _ _ => Rule.failure_apply_eq_none

theorem failure_runOctets_eq_none :
    (program.runOctets ⟨.abort, mode⟩ clock octets).failure = none ↔
      program.Holds mode clock octets := by
  rw [runOctets, Transcript.failure_sequence_eq_none]
  constructor
  · intro h number line hline
    exact failure_runLine_eq_none.mp (h (line, number) (List.mem_zipIdx_iff_getElem?.mpr hline))
  · rintro h ⟨line, number⟩ hmem
    exact failure_runLine_eq_none.mpr (h number line (List.mem_zipIdx_iff_getElem?.mp hmem))

variable {options : Options} {inputs : List Input}

/-- What an input has to be for a run to be clean. -/
def Clean (options : Options) (clock : Clock) (program : Program) (input : Input) : Prop :=
  ∃ octets, input = .octets octets ∧
    (options.policy = .abort → program.Holds options.mode clock octets)

theorem clean_iff {input : Input} :
    program.Clean options clock input ↔
      (program.runInput options clock input).failure = none ∧ ¬ input.isUnopened := by
  obtain ⟨policy, mode⟩ := options
  cases input with
  | octets octets =>
    have hruns : (program.runOctets ⟨policy, mode⟩ clock octets).failure = none ↔
        (policy = .abort → program.Holds mode clock octets) := by
      cases policy with
      | abort => simpa using failure_runOctets_eq_none
      | proceed => simpa using (program.foretells_runOctets mode clock octets).goesOn
    simpa [Clean, Input.isUnopened, runInput] using hruns.symm
  | unopened path cause => simp [Clean, Input.isUnopened]
  | broken cause => simp [Clean, runInput, Transcript.failed]

theorem passed_and_readable_iff :
    (program.runInputs options clock inputs).failure = none ∧
        (program.runInputs options clock inputs).tally.unreadable = 0 ↔
      ∀ input ∈ inputs, program.Clean options clock input := by
  simp only [clean_iff, forall₂_and]
  rw [← failure_runInputs_eq_none, ← List.countP_eq_zero]
  refine and_congr_right fun h => ?_
  rw [unreadable_runInputs h]

end Program

end LineFilter
