import Mathlib.Data.List.Basic
import LineFilter.Proofs.Run.Reading

/-!
# Runs that keep one ledger

A run can be told as a program that changes a ledger as it goes: the inputs, the
lines of an input and the rules on a line are gone through in loops, and all of
them write to the same output, add to the same counts and may end the whole run.
None of them looks at what the ledger holds. So what a loop adds is a transcript,
the same behind any ledger, and a loop inside a loop is a sequence in a sequence.
-/

namespace LineFilter

/-- What a run has written, noticed and counted. -/
structure Ledger where
  out : Text
  notices : List Text
  tally : Tally
deriving DecidableEq

namespace Ledger

def blank : Ledger := ⟨[], [], .zero⟩

/-- A ledger with what a transcript shows behind what it holds. -/
def extend (ledger : Ledger) (t : Transcript) : Ledger :=
  ⟨ledger.out ++ t.out, ledger.notices ++ t.notices, ledger.tally.plus t.tally⟩

@[simp] theorem extend_empty (ledger : Ledger) : ledger.extend .empty = ledger := by
  simp [extend, Transcript.empty]

@[simp] theorem extend_wrote (ledger : Ledger) (text : Text) :
    ledger.extend (.wrote text) = { ledger with out := ledger.out ++ text } := by
  simp [extend, Transcript.wrote, Transcript.empty]

@[simp] theorem extend_noticed (ledger : Ledger) (text : Text) :
    ledger.extend (.noticed text) = { ledger with notices := ledger.notices ++ [text] } := by
  simp [extend, Transcript.noticed, Transcript.empty]

@[simp] theorem extend_counted (ledger : Ledger) (tally : Tally) :
    ledger.extend (.counted tally) = { ledger with tally := ledger.tally.plus tally } := by
  simp [extend, Transcript.counted, Transcript.empty]

theorem blank_extend (t : Transcript) : blank.extend t = ⟨t.out, t.notices, t.tally⟩ := by
  simp [extend, blank]

theorem extend_followedBy {a b : Transcript} (h : a.failure = none) (ledger : Ledger) :
    (ledger.extend a).extend b = ledger.extend (a.followedBy b) := by
  simp [extend, Transcript.followedBy_of_passed h, Tally.plus_assoc]

end Ledger

/-- Steps that change a ledger and may end the run. The ledger outlives them. -/
abbrev Running (α : Type) : Type := ExceptT RunError (StateM Ledger) α

namespace Running

variable {α β : Type}

/-- What steps come to when they start on a ledger, and the ledger they leave. -/
def on (ledger : Ledger) (steps : Running α) : Except RunError α × Ledger := steps.run ledger

def write (text : Text) : Running Unit :=
  modify fun ledger => { ledger with out := ledger.out ++ text }

def notice (text : Text) : Running Unit :=
  modify fun ledger => { ledger with notices := ledger.notices ++ [text] }

def count (tally : Tally) : Running Unit :=
  modify fun ledger => { ledger with tally := ledger.tally.plus tally }

theorem on_bind (ledger : Ledger) (steps : Running α) (next : α → Running β) :
    (steps >>= next).on ledger = match steps.on ledger with
      | (.ok value, left) => (next value).on left
      | (.error failure, left) => (.error failure, left) := by
  unfold on ExceptT.run
  simp only [bind, ExceptT.bind, ExceptT.mk, StateT.bind, ExceptT.bindCont]
  cases steps ledger with
  | mk result left => cases result <;> rfl

/-- Steps add what a transcript shows to any ledger. If it has no failure they
come to a value, and to that failure otherwise. -/
def Adds (t : Transcript) (value : α) (steps : Running α) : Prop :=
  ∀ ledger, steps.on ledger = (t.failure.elim (.ok value) .error, ledger.extend t)

namespace Adds

variable {t u : Transcript} {value : α} {value' : β} {steps : Running α}

theorem pure (value : α) : Adds .empty value (Pure.pure value : Running α) := by
  intro ledger
  rw [Ledger.extend_empty]
  rfl

theorem throw (failure : RunError) (value : α) :
    Adds (.failed failure) value (MonadExcept.throw failure : Running α) := by
  intro ledger
  exact congrArg (Prod.mk _) ledger.extend_empty.symm

theorem write (text : Text) : Adds (.wrote text) () (write text) := by
  intro ledger
  rw [Ledger.extend_wrote]
  rfl

theorem notice (text : Text) : Adds (.noticed text) () (notice text) := by
  intro ledger
  rw [Ledger.extend_noticed]
  rfl

theorem count (tally : Tally) : Adds (.counted tally) () (count tally) := by
  intro ledger
  rw [Ledger.extend_counted]
  rfl

theorem bind {next : α → Running β} (h : Adds t value steps) (h' : Adds u value' (next value)) :
    Adds (t.followedBy u) value' (steps >>= next) := by
  intro ledger
  rw [on_bind, h ledger]
  cases ht : t.failure with
  | none =>
    simp only [Option.elim_none]
    rw [h' (ledger.extend t), Ledger.extend_followedBy ht, Transcript.failure_followedBy, ht,
      Option.none_or]
  | some failure =>
    rw [Transcript.followedBy_of_failed ht, ht]
    rfl

theorem returning {steps : Running Unit} (h : Adds t () steps) (value : α) :
    Adds t value (steps >>= fun _ => Pure.pure value) := by
  rw [← Transcript.followedBy_empty t]
  exact h.bind (pure value)

/-- A loop adds what its turns add. -/
theorem foldlM {ι : Type} {turn : α → ι → Running α} {adds : ι → Transcript} {next : α → ι → α}
    (h : ∀ value item, Adds (adds item) (next value item) (turn value item)) (items : List ι)
    (value : α) :
    Adds (.sequence (items.map adds)) (items.foldl next value) (items.foldlM turn value) := by
  induction items generalizing value with
  | nil => exact pure value
  | cons item rest ih =>
    rw [List.foldlM_cons]
    exact (h value item).bind (ih (next value item))

theorem forM {ι : Type} {turn : ι → Running Unit} {adds : ι → Transcript}
    (h : ∀ item, Adds (adds item) () (turn item)) (items : List ι) :
    Adds (.sequence (items.map adds)) () (items.forM turn) := by
  induction items with
  | nil => exact pure ()
  | cons item rest ih => exact (h item).bind ih

end Adds

end Running

open Running (Adds)

-- ---------------------------------------------------------------------------
-- Rules
-- ---------------------------------------------------------------------------

namespace Rule

def failOn (policy : Policy) (cause : EvalError) (rule : Rule) : Running Unit :=
  match policy with
  | .abort => throw (.rule rule cause)
  | .proceed => do
    Running.notice (RunError.rule rule cause).message
    Running.count ⟨0, 0, 1, 0⟩

def actOn (options : Options) (env : Environment) (rule : Rule) : Running Unit :=
  match options.mode with
  | .report => return ()
  | .execute => do
    let printed := rule.block.run .accepting env
    Running.write printed.text
    match printed.failure with
    | none => return ()
    | some cause => rule.failOn options.policy cause

def number? (env : Environment) : Rule × Nat → Option Nat
  | (rule, index) =>
    match rule.selects env with
    | .ok true => some index
    | _ => none

/-- One turn of the loop over the rules, which keeps the numbers of those that
have selected the line. -/
def applyOn (options : Options) (env : Environment) (matched : List Nat) :
    Rule × Nat → Running (List Nat)
  | (rule, index) =>
    match rule.selects env with
    | .error cause => do
      rule.failOn options.policy cause
      return matched
    | .ok false => return matched
    | .ok true => do
      Running.count ⟨0, 1, 0, 0⟩
      rule.actOn options env
      return matched ++ [index]

variable (options : Options) (env : Environment) (rule : Rule)

theorem adds_failOn (policy : Policy) (cause : EvalError) :
    Adds (rule.fail policy cause) () (rule.failOn policy cause) := by
  cases policy with
  | abort => exact .throw _ ()
  | proceed => exact (Adds.notice _).bind (.count _)

theorem adds_actOn : Adds (rule.act options env) () (rule.actOn options env) := by
  rw [act_eq]
  obtain ⟨policy, mode⟩ := options
  cases mode with
  | report => exact .pure ()
  | execute =>
    refine (Adds.write _).bind ?_
    show Adds ((rule.block.run .accepting env).failure.elim .empty _) () _
    cases (rule.block.run .accepting env).failure with
    | none => exact .pure ()
    | some cause => exact rule.adds_failOn policy cause

theorem adds_applyOn (matched : List Nat) (index : Nat) :
    Adds (rule.apply options env) (matched ++ (number? env (rule, index)).toList)
      (applyOn options env matched (rule, index)) := by
  cases h : rule.selects env with
  | error cause =>
    rw [apply_of_error h]
    simp only [number?, applyOn, h, Option.toList_none, List.append_nil]
    exact (rule.adds_failOn options.policy cause).returning matched
  | ok selected =>
    cases selected with
    | false =>
      rw [apply_of_false h]
      simp only [number?, applyOn, h, Option.toList_none, List.append_nil]
      exact .pure matched
    | true =>
      rw [apply_of_true h]
      simp only [number?, applyOn, h, Option.toList_some]
      exact (Adds.count _).bind ((rule.adds_actOn options env).returning (matched ++ [index]))

end Rule

-- ---------------------------------------------------------------------------
-- Lines and inputs
-- ---------------------------------------------------------------------------

namespace Program

variable (options : Options) (clock : Clock) (program : Program)

/-- The loop over the rules, between the count of the line and its entry. -/
def lineOn (number : Nat) (line : Text) : Running Unit := do
  let row := Row.ofLine number line
  Running.count ⟨1, 0, 0, 0⟩
  let matched ← program.zipIdx.foldlM (Rule.applyOn options (Environment.ofRow clock row)) []
  match options.mode with
  | .execute => return ()
  | .report => Running.write (row.report matched ++ ['\n'])

/-- The loop over the lines of an input, which reads each of them when it gets
there and keeps its number. -/
def octetsOn (number : Nat) : Octets → Running Unit
  | [] => return ()
  | octet :: rest => do
    lineOn options clock program number
      (Utf8.decode (Octets.splitLine (octet :: rest)).1.withoutEnd)
    octetsOn (number + 1) (Octets.splitLine (octet :: rest)).2
termination_by octets => octets.length
decreasing_by exact Octets.length_splitLine_lt octet rest

def inputOn : Input → Running Unit
  | .octets octets => octetsOn options clock program 0 octets
  | .unopened path cause => do
    Running.notice ("can't read ".toList ++ path ++ ": ".toList ++ cause.message)
    Running.count ⟨0, 0, 0, 1⟩
  | .broken cause => throw (.input cause)

/-- The loop over the inputs. -/
def inputsOn (inputs : List Input) : Running Unit := inputs.forM (inputOn options clock program)

theorem foldl_number? (env : Environment) :
    program.zipIdx.foldl (fun matched numbered =>
      matched ++ (Rule.number? env numbered).toList) [] = program.selecting env := by
  rw [List.foldl_append_eq_append, List.nil_append, ← List.flatMap_def,
    ← List.filterMap_eq_flatMap_toList]
  rfl

theorem adds_lineOn (number : Nat) (line : Text) :
    Adds (program.runLine options clock number line) ()
      (lineOn options clock program number line) := by
  have hrules := Adds.foldlM (fun matched (numbered : Rule × Nat) =>
    numbered.1.adds_applyOn options (.ofLine clock number line) matched numbered.2)
    program.zipIdx []
  have hnumbers : program.zipIdx.map (fun numbered =>
      numbered.1.apply options (.ofLine clock number line)) =
      program.map (·.apply options (.ofLine clock number line)) := by
    conv_rhs => rw [← List.zipIdx_map_fst 0 program, List.map_map]
    rfl
  rw [foldl_number?, hnumbers] at hrules
  rw [runLine_eq]
  refine (Adds.count _).bind (hrules.bind ?_)
  obtain ⟨policy, mode⟩ := options
  cases mode with
  | execute => exact .pure ()
  | report => exact .write _

theorem adds_octetsOn (number : Nat) (octets : Octets) :
    Adds (program.readOn options clock number octets) ()
      (octetsOn options clock program number octets) := by
  fun_induction readOn options clock program number octets with
  | case1 =>
    rw [octetsOn]
    exact .pure ()
  | case2 number octet rest ih =>
    rw [octetsOn]
    exact (adds_lineOn options clock program number _).bind ih

theorem adds_inputOn (input : Input) :
    Adds (program.runInput options clock input) () (inputOn options clock program input) := by
  cases input with
  | octets octets =>
    have hread := program.adds_octetsOn options clock 0 octets
    rwa [readOn_eq] at hread
  | unopened path cause => exact (Adds.notice _).bind (.count _)
  | broken cause => exact .throw _ ()

/-- A run on inputs adds the same to whatever was written and counted before. -/
theorem adds_inputsOn (inputs : List Input) :
    Adds (program.runInputs options clock inputs) () (inputsOn options clock program inputs) :=
  .forM (program.adds_inputOn options clock) inputs

end Program

end LineFilter
