import LineFilter.Run.Transcript
import LineFilter.Text.Utf8

/-!
# Where a script comes from

A script is an expression, the content of a file, or the first word if there is
neither. An expression goes before a file. The words that are left name the
inputs.
-/

namespace LineFilter

/-- What a path leads to. -/
inductive Entry
  | file (octets : Octets)
  | directory
  | absent (cause : FileError)
deriving DecidableEq, Repr

inductive ScriptSource
  | expression (script : Text)
  | file (path : Text)
  | word (script : Text)
deriving DecidableEq, Repr

namespace ScriptSource

/-- The source of the script and the inputs, unless there is no script. -/
def choose (expression file : Option Text) (words : List Text) :
    Option (ScriptSource × List Text) :=
  match expression, file, words with
  | some script, _, _ => some (.expression script, words)
  | none, some path, _ => some (.file path, words)
  | none, none, script :: inputs => some (.word script, inputs)
  | none, none, [] => none

/-- The script of a file, which has to be text. -/
def ofEntry : Entry → Except FileError Text
  | .file octets =>
    match Utf8.decode? octets with
    | some script => .ok script
    | none => .error .notText
  | .directory => .error .isDirectory
  | .absent cause => .error cause

/-- The script, or the path that it can not be read from. -/
def load (entry : Text → Entry) : ScriptSource → Except (Text × FileError) Text
  | .expression script | .word script => .ok script
  | .file path => (ofEntry (entry path)).mapError (path, ·)

end ScriptSource

end LineFilter
