import LineFilter.Run.Transcript
import LineFilter.Text.Json

/-!
# Running a program on a line

Every rule that selects the line counts. In execute mode its block runs; in
report mode the line gets one entry that names the rules instead. A rule that
fails ends the run, or is noticed and passed over.
-/

namespace LineFilter

/-- What follows from a rule that fails. -/
inductive Policy
  | abort
  | proceed
deriving DecidableEq, Repr

/-- What is written for a line. -/
inductive Mode
  | execute
  | report
deriving DecidableEq, Repr

structure Options where
  policy : Policy
  mode : Mode
deriving DecidableEq, Repr

/-- The line's entry in a report: its number, the rules that select it and its
text. -/
def Row.report (row : Row) (rules : List Nat) : Text :=
  "\x7b\"line\":".toList ++ Text.ofNat row.number ++ ",\"matched\":[".toList ++
    Text.join [','] (rules.map Text.ofNat) ++ "],\"text\":".toList ++ row.line.json ++ ['\x7d']

namespace Rule

/-- A rule has failed. -/
def fail (policy : Policy) (rule : Rule) (cause : EvalError) : Transcript :=
  match policy with
  | .abort => .failed (.rule rule cause)
  | .proceed =>
    (Transcript.noticed (RunError.rule rule cause).message).followedBy (.counted ⟨0, 0, 1, 0⟩)

/-- What a rule does on a line that it selects. -/
def act (options : Options) (env : Environment) (rule : Rule) : Transcript :=
  match options.mode with
  | .report => .empty
  | .execute =>
    let printed := rule.block.run .accepting env
    (Transcript.wrote printed.text).followedBy
      (printed.failure.elim .empty (rule.fail options.policy))

/-- What a rule does on a line. -/
def apply (options : Options) (env : Environment) (rule : Rule) : Transcript :=
  match rule.selects env with
  | .error cause => rule.fail options.policy cause
  | .ok false => .empty
  | .ok true => (Transcript.counted ⟨0, 1, 0, 0⟩).followedBy (rule.act options env)

end Rule

namespace Program

/-- The numbers of the rules that select a line, in order. -/
def selecting (env : Environment) (program : Program) : List Nat :=
  program.zipIdx.filterMap fun (rule, index) =>
    match rule.selects env with
    | .ok true => some index
    | _ => none

/-- The entry for a line, in report mode. -/
def entry (options : Options) (env : Environment) (row : Row) (program : Program) : Transcript :=
  match options.mode with
  | .execute => .empty
  | .report => .wrote (row.report (program.selecting env) ++ ['\n'])

/-- Runs all rules on a line. -/
def runLine (options : Options) (clock : Clock) (program : Program) (number : Nat) (line : Text) :
    Transcript :=
  let row := Row.ofLine number line
  let env := Environment.ofRow clock row
  .sequence (.counted ⟨1, 0, 0, 0⟩ :: program.map (·.apply options env) ++
    [program.entry options env row])

end Program

end LineFilter
