import LineFilter.Expr.Evaluation
import LineFilter.Program.Basic

/-!
# Running blocks

`print` writes its parameters with blanks between them, and `println` ends the
line as well; there are no other commands. A command writes all of its text or
none, and a block stops at its first command that fails.
-/

namespace LineFilter

/-- Whether text can still be written. -/
inductive Output
  | accepting
  /-- Refuses all text but the empty one. -/
  | closed
deriving DecidableEq, Repr

/-- What a block wrote, and why it stopped early. -/
structure Printed where
  text : Text
  failure : Option EvalError
deriving DecidableEq

namespace Command

/-- What stands behind the parameters on the output, if the command exists. -/
def ending? (name : Text) : Option Text :=
  if name = "print".toList then some []
  else if name = "println".toList then some ['\n']
  else none

/-- The text that a command writes. -/
def text (env : Environment) (command : Command) : Except EvalError Text :=
  match ending? command.name with
  | none => .error (.unknownCommand command.name command.place)
  | some ending => do
    let outcomes ← command.params.mapM (Expr.eval env)
    return Value.joined (outcomes.map Outcome.asValue) ++ ending

end Command

namespace Output

/-- The text that is written, if it can be. -/
def write (output : Output) (text : Text) : Except EvalError Text :=
  match output with
  | .accepting => .ok text
  | .closed => if text = [] then .ok text else .error .closedOutput

end Output

/-- Runs the commands of a block in order. -/
def Block.run (output : Output) (env : Environment) : Block → Printed
  | [] => ⟨[], none⟩
  | command :: rest =>
    match command.text env >>= output.write with
    | .error e => ⟨[], some e⟩
    | .ok text =>
      let printed := Block.run output env rest
      ⟨text ++ printed.text, printed.failure⟩

/-- Whether a rule selects the line of an environment. -/
def Rule.selects (env : Environment) (rule : Rule) : Except EvalError Bool :=
  match rule.selection with
  | none => .ok true
  | some selection => do
    match ← selection.eval env with
    | .truth holds => .ok holds
    | .value _ => .error (.unselectiveValue selection)

end LineFilter
