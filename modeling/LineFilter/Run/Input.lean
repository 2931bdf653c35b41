import LineFilter.Run.Line
import LineFilter.Text.Lines
import LineFilter.Text.Utf8

/-!
# Running a program on its inputs

An input is octets, which are cut into lines before they are read as text.
Lines are numbered from 0 in each input. Inputs that can not be opened are
passed over.
-/

namespace LineFilter

/-- The lines that octets spell. -/
def Octets.lines (octets : Octets) : List Text := (Lines.cut 10 13 octets).map Utf8.decode

/-- What an input turns out to be. -/
inductive Input
  | octets (octets : Octets)
  /-- There is nothing to read under a path. -/
  | unopened (path : Text) (cause : FileError)
  /-- Reading fails at once. -/
  | broken (cause : FileError)
deriving DecidableEq, Repr

namespace Program

/-- Runs a program on all lines of an input. -/
def runOctets (options : Options) (clock : Clock) (program : Program) (octets : Octets) :
    Transcript :=
  .sequence (octets.lines.zipIdx.map fun (line, number) =>
    program.runLine options clock number line)

def runInput (options : Options) (clock : Clock) (program : Program) : Input → Transcript
  | .octets octets => program.runOctets options clock octets
  | .unopened path cause =>
    (Transcript.noticed ("can't read ".toList ++ path ++ ": ".toList ++ cause.message)).followedBy
      (.counted ⟨0, 0, 0, 1⟩)
  | .broken cause => .failed (.input cause)

/-- Runs a program on inputs in order. -/
def runInputs (options : Options) (clock : Clock) (program : Program) (inputs : List Input) :
    Transcript :=
  .sequence (inputs.map (program.runInput options clock))

end Program

end LineFilter
