import LineFilter.Expr.Basic
import LineFilter.Position

/-!
# Programs

A program is a list of rules. A rule runs its block for each line that its
selection holds of, or for every line if it has none. Commands know where they
stand in the script; `withoutPlaces` forgets that where only the meaning
matters.
-/

namespace LineFilter

/-- A call. Whether there is a command of that name shows when it runs. -/
structure Command where
  name : Text
  params : List Expr
  place : Position
deriving DecidableEq

abbrev Block := List Command

structure Rule where
  selection : Option Expr
  block : Block
deriving DecidableEq

abbrev Program := List Rule

namespace Command

def describe (c : Command) : Text :=
  c.name ++ '(' :: Text.join ", ".toList (c.params.map Expr.describe) ++ [')']

def withoutPlace (c : Command) : Command := { c with place := .implied }

end Command

namespace Block

/-- The block of a rule that is written without one prints the line. -/
def printLine : Block := [⟨"println".toList, [.wholeLine], .implied⟩]

def describe (block : Block) : Text :=
  '\x7b' :: ' ' :: Text.join "; ".toList (block.map Command.describe) ++ [' ', '\x7d']

end Block

namespace Rule

def describe (rule : Rule) : Text :=
  match rule.selection with
  | some selection => selection.describe ++ ' ' :: Block.describe rule.block
  | none => Block.describe rule.block

def withoutPlaces (rule : Rule) : Rule :=
  { rule with block := rule.block.map Command.withoutPlace }

end Rule

namespace Program

/-- A program as a script, one rule a line. -/
def describe (program : Program) : Text := Text.join ['\n'] (program.map Rule.describe)

/-- The program without the places of its commands. -/
def withoutPlaces (program : Program) : Program := program.map Rule.withoutPlaces

end Program

end LineFilter
