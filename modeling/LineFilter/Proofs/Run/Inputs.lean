import Mathlib.Algebra.BigOperators.Group.List.Basic
import LineFilter.Program.Reader
import LineFilter.Proofs.Run.Threading

/-!
# A run on inputs is put together from runs on each

Each input is run on by itself, with its lines numbered from 0. Their outputs
stand one behind the other and their counts are added up, where an input that can
not be opened only counts as unreadable. The first input whose own run fails ends
the run, and what was written for it up to there is the last that is written.
-/

namespace LineFilter

open Running (Adds)

namespace Input

/-- What is read from an input that can be opened and read. -/
def octets? : Input → Option Octets
  | .octets content => some content
  | _ => none

def isUnopened : Input → Bool
  | .unopened _ _ => true
  | _ => false

end Input

theorem Tally.plus_unreadable (tally : Tally) (unreadable : Nat) :
    plus ⟨0, 0, 0, 1⟩ (tally.plus ⟨0, 0, 0, unreadable⟩) =
      tally.plus ⟨0, 0, 0, unreadable + 1⟩ := by
  simp [plus]
  omega

namespace Program

variable (options : Options) (clock : Clock) (program : Program)

theorem runInputs_cons (input : Input) (rest : List Input) :
    program.runInputs options clock (input :: rest) =
      (program.runInput options clock input).followedBy (program.runInputs options clock rest) :=
  rfl

theorem runInputs_append (left right : List Input) :
    program.runInputs options clock (left ++ right) =
      (program.runInputs options clock left).followedBy
        (program.runInputs options clock right) := by
  rw [runInputs, List.map_append, Transcript.sequence_append]
  rfl

/-- The runs on those inputs that can be read, each by itself. -/
def opened (inputs : List Input) : List Transcript :=
  (inputs.filterMap Input.octets?).map (program.runOctets options clock)

theorem unreadable_runOctets (octets : Octets) :
    (program.runOctets options clock octets).tally.unreadable = 0 := by
  refine Transcript.count_sequence Tally.besideRules_unreadable ?_
  intro t ht
  obtain ⟨⟨line, number⟩, -, rfl⟩ := List.mem_map.mp ht
  exact program.count_runLine Tally.besideRules_unreadable options clock number line

theorem sum_unreadable_opened (inputs : List Input) :
    ((program.opened options clock inputs).map (·.tally.unreadable)).sum = 0 := by
  apply List.sum_eq_zero
  intro unreadable hmem
  obtain ⟨run, hrun, rfl⟩ := List.mem_map.mp hmem
  obtain ⟨octets, -, rfl⟩ := List.mem_map.mp hrun
  exact program.unreadable_runOctets options clock octets

variable {options clock program} {inputs : List Input}

theorem failure_runInputs_eq_none :
    (program.runInputs options clock inputs).failure = none ↔
      ∀ input ∈ inputs, (program.runInput options clock input).failure = none :=
  Transcript.failure_sequence_eq_none

theorem runInputs_of_passed (h : (program.runInputs options clock inputs).failure = none) :
    (program.runInputs options clock inputs).out =
        (program.opened options clock inputs).flatMap (·.out) ∧
      (program.runInputs options clock inputs).tally =
        (Tally.total ((program.opened options clock inputs).map (·.tally))).plus
          ⟨0, 0, 0, inputs.countP Input.isUnopened⟩ := by
  induction inputs with
  | nil => exact ⟨rfl, rfl⟩
  | cons input rest ih =>
    rw [runInputs_cons] at h ⊢
    obtain ⟨hinput, hrest⟩ := Transcript.failure_followedBy_eq_none.mp h
    obtain ⟨hout, htally⟩ := ih hrest
    rw [Transcript.followedBy_of_passed hinput, hout, htally]
    cases input with
    | octets octets => exact ⟨rfl, (Tally.plus_assoc _ _ _).symm⟩
    | unopened path cause =>
      rw [List.countP_cons_of_pos rfl]
      exact ⟨rfl, Tally.plus_unreadable _ _⟩
    | broken cause => cases hinput

theorem count_runInputs {count : Tally → Nat} (hzero : count .zero = 0)
    (hplus : ∀ a b, count (a.plus b) = count a + count b)
    (h : (program.runInputs options clock inputs).failure = none) :
    count (program.runInputs options clock inputs).tally =
      ((program.opened options clock inputs).map fun run => count run.tally).sum +
        count ⟨0, 0, 0, inputs.countP Input.isUnopened⟩ := by
  rw [(runInputs_of_passed h).2, hplus, Tally.count_total hzero hplus, List.map_map]
  rfl

theorem unreadable_runInputs (h : (program.runInputs options clock inputs).failure = none) :
    (program.runInputs options clock inputs).tally.unreadable = inputs.countP Input.isUnopened := by
  rw [count_runInputs rfl Tally.unreadable_plus h, sum_unreadable_opened, Nat.zero_add]

/-- A run that fails has gone through some inputs and stops in the next one, with
whatever inputs there are behind it. -/
theorem runInputs_of_failed (h : (program.runInputs options clock inputs).failure ≠ none) :
    ∃ before input after, inputs = before ++ input :: after ∧
      (program.runInputs options clock before).failure = none ∧
      (program.runInput options clock input).failure ≠ none ∧
      ∀ others, program.runInputs options clock (before ++ input :: others) =
        (program.runInputs options clock before).followedBy
          (program.runInput options clock input) := by
  obtain ⟨failure, hfailure⟩ := Option.ne_none_iff_exists'.mp h
  rw [runInputs, Transcript.sequence_eq, List.findSome?_map, List.findSome?_eq_some_iff] at hfailure
  obtain ⟨before, input, after, hinputs, hinput, hbefore⟩ := hfailure
  refine ⟨before, input, after, hinputs, failure_runInputs_eq_none.mpr hbefore, ?_, ?_⟩
  · exact Option.ne_none_iff_exists'.mpr ⟨failure, hinput⟩
  · intro others
    rw [runInputs_append, runInputs_cons, Transcript.followedBy_of_failed hinput]

/-- How a run on inputs comes from runs on each of them. -/
structure AddsUp (options : Options) (clock : Clock) (program : Program) (inputs : List Input)
    (run : Transcript) : Prop where
  /-- The loops that change one ledger add the run to it, whatever it holds. -/
  loops : Adds run () (program.inputsOn options clock inputs)
  /-- So does the loop over the lines of one input, which counts no input as unreadable. -/
  each : ∀ octets, Adds (program.runOctets options clock octets) ()
      (program.octetsOn options clock 0 octets) ∧
    (program.runOctets options clock octets).tally.unreadable = 0
  passes : run.failure = none ↔
    ∀ input ∈ inputs, (program.runInput options clock input).failure = none
  out : run.failure = none → run.out = (program.opened options clock inputs).flatMap (·.out)
  lines : run.failure = none →
    run.tally.lines = ((program.opened options clock inputs).map (·.tally.lines)).sum
  selected : run.failure = none →
    run.tally.selected = ((program.opened options clock inputs).map (·.tally.selected)).sum
  errors : run.failure = none →
    run.tally.errors = ((program.opened options clock inputs).map (·.tally.errors)).sum
  unreadable : run.failure = none → run.tally.unreadable = inputs.countP Input.isUnopened
  /-- A run that fails ends with what was written for the first input whose own run fails. -/
  stops : run.failure ≠ none → ∃ before input after, inputs = before ++ input :: after ∧
    (∀ earlier ∈ before, (program.runInput options clock earlier).failure = none) ∧
    (program.runInput options clock input).failure ≠ none ∧
    run.failure = (program.runInput options clock input).failure ∧
    run.out = (program.opened options clock before).flatMap (·.out) ++
      (program.runInput options clock input).out ∧
    ∀ others, program.runInputs options clock (before ++ input :: others) = run
  append : ∀ left right, inputs = left ++ right → run.failure = none →
    (program.runInputs options clock left).failure = none ∧
    (program.runInputs options clock right).failure = none ∧
    run.out = (program.runInputs options clock left).out ++
      (program.runInputs options clock right).out ∧
    run.tally = (program.runInputs options clock left).tally.plus
      (program.runInputs options clock right).tally

theorem runInputs_addsUp (options : Options) (clock : Clock) (program : Program)
    (inputs : List Input) :
    AddsUp options clock program inputs (program.runInputs options clock inputs) where
  loops := program.adds_inputsOn options clock inputs
  each octets := ⟨program.adds_inputOn options clock (.octets octets),
    program.unreadable_runOctets options clock octets⟩
  passes := failure_runInputs_eq_none
  out h := (runInputs_of_passed h).1
  lines := count_runInputs rfl Tally.lines_plus
  selected := count_runInputs rfl Tally.selected_plus
  errors := count_runInputs rfl Tally.errors_plus
  unreadable := unreadable_runInputs
  stops h := by
    obtain ⟨before, input, after, rfl, hbefore, hinput, hothers⟩ := runInputs_of_failed h
    refine ⟨before, input, after, rfl, failure_runInputs_eq_none.mp hbefore, hinput, ?_, ?_, ?_⟩
    · rw [hothers after, Transcript.followedBy_of_passed hbefore]
    · rw [hothers after, Transcript.followedBy_of_passed hbefore, (runInputs_of_passed hbefore).1]
    · intro others
      rw [hothers others, hothers after]
  append left right hinputs h := by
    subst hinputs
    rw [runInputs_append] at h ⊢
    obtain ⟨hleft, hright⟩ := Transcript.failure_followedBy_eq_none.mp h
    rw [Transcript.followedBy_of_passed hleft]
    exact ⟨hleft, hright, rfl, rfl⟩

-- Lines are numbered from 0 again behind an input that is passed over.
example :
    (ofScript ⟨0, 0, .utc⟩ "\x7b println(%#) \x7d".toList).toOption.any fun program =>
      let run := program.runInputs ⟨.abort, .execute⟩ ⟨0, 0, .utc⟩
        [.octets [97, 10, 98], .unopened "x".toList .notFound, .octets [99, 10]]
      run.out = "0\n1\n0\n".toList ∧ run.tally = ⟨3, 3, 0, 1⟩ := by
  decide +kernel

end Program

end LineFilter
