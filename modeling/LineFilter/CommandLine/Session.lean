import LineFilter.CommandLine.Arguments
import LineFilter.CommandLine.Script
import LineFilter.Program.Reader
import LineFilter.Run.Input

/-!
# Sessions

From arguments to what is written and the exit code: 0 if all went well, 1 if
the session failed and 2 if its arguments could not be understood.
-/

namespace LineFilter

/-- What a session finds around it. -/
structure Surroundings where
  clock : Clock
  entry : Text → Entry
  /-- The standard input, unless it is a terminal. -/
  standardInput : Option Octets

inductive SessionError
  | noScript
  | noInput
  | scriptFile (path : Text) (cause : FileError)
  | program (error : ScriptError)
  | run (error : RunError)
  | unreadableInputs (count : Nat)
deriving DecidableEq

namespace SessionError

def message : SessionError → Text
  | .noScript =>
    "No script provided. Use -e, -f or pass the script as the first argument.".toList
  | .noInput => "No input provided. Pass input files or pipe text to stdin.".toList
  | .scriptFile path cause =>
    "can't read script file ".toList ++ path ++ ": ".toList ++ cause.message
  | .program error => "Could not understand program:\n".toList ++ error.message
  | .run error => error.message
  | .unreadableInputs count => Text.ofNat count ++ " input file(s) could not be read".toList

end SessionError

/-- What a session leaves behind. -/
structure Ended where
  code : Nat
  out : Text
  err : Text
deriving DecidableEq, Repr

namespace Arguments

def options (arguments : Arguments) : Options where
  policy := if arguments.keepGoing then .proceed else .abort
  mode := if arguments.report then .report else .execute

/-- Where the script comes from, and the paths of the inputs. -/
def source? (arguments : Arguments) : Option (ScriptSource × List Text) :=
  ScriptSource.choose arguments.expression arguments.file arguments.words

/-- The paths that a session looks at. -/
def paths (arguments : Arguments) : List Text :=
  match arguments.source? with
  | some (.file path, inputs) => path :: inputs
  | some (_, inputs) => inputs
  | .none => []

/-- Whether a session looks at the standard input. -/
def readsStandardInput (arguments : Arguments) : Bool :=
  !arguments.syntaxOnly && arguments.source?.any (·.2.isEmpty)

/-- The program of a session and its inputs. -/
def program (surroundings : Surroundings) (arguments : Arguments) :
    Except SessionError (Program × List Text) :=
  match arguments.source? with
  | .none => .error .noScript
  | some (source, inputs) => do
    let script ← (source.load surroundings.entry).mapError fun (path, cause) =>
      .scriptFile path cause
    let program ← (Program.ofScript surroundings.clock script).mapError .program
    return (program, inputs)

/-- The input under a path. -/
def input (surroundings : Surroundings) (path : Text) : Input :=
  match surroundings.entry path with
  | .file octets => .octets octets
  | .directory => .broken .isDirectory
  | .absent cause => .unopened path cause

/-- What a session does, and its error. -/
def run (surroundings : Surroundings) (arguments : Arguments) :
    Transcript × Option SessionError :=
  match arguments.program surroundings with
  | .error e => (.empty, some e)
  | .ok (program, paths) =>
    if arguments.syntaxOnly then (.wrote "Syntax is valid\n".toList, .none)
    else
      match paths, surroundings.standardInput with
      | [], .none => (.empty, some .noInput)
      | [], some octets =>
        let transcript := program.runInput arguments.options surroundings.clock (.octets octets)
        (transcript, transcript.failure.map .run)
      | paths, _ =>
        let transcript := program.runInputs arguments.options surroundings.clock
          (paths.map (input surroundings))
        match transcript.failure with
        | some e => (transcript, some (.run e))
        | .none =>
          let count := transcript.tally.unreadable
          (transcript, if count = 0 then .none else some (.unreadableInputs count))

end Arguments

namespace Reply

def usageLine : Text := "Usage: jt [OPTIONS] [ARGS]...\n".toList

def helpText : Text :=
  "jt - filter lines of text with typed selection rules\n\n".toList ++ usageLine ++
  "\nArguments:\n".toList ++
  "  [ARGS]...  The script (unless -e or -f is given), then input files\n".toList ++
  "\nOptions:\n".toList ++
  "  -e, --expression <SCRIPT>  Script given on the command line\n".toList ++
  "  -f, --file <SCRIPT_FILE>   Read the script from a file\n".toList ++
  "  -v, --verbose...           More logging on stderr\n".toList ++
  "      --syntax-only          Only check that the script parses\n".toList ++
  "      --report               Print a JSON line per input line\n".toList ++
  "      --keep-going           Report failing rules and continue\n".toList ++
  "  -h, --help                 Print help\n".toList ++
  "  -V, --version              Print version\n".toList

def ended : Reply → Ended
  | .help => ⟨0, helpText, []⟩
  | .version => ⟨0, "jt 0.1.0\n".toList, []⟩
  | .usage e => ⟨2, [], "error: ".toList ++ e.message ++ "\n\n".toList ++ usageLine⟩

end Reply

namespace Arguments

/-- Runs a session with arguments that could be understood. -/
def session (surroundings : Surroundings) (arguments : Arguments) : Ended :=
  let (transcript, error) := arguments.run surroundings
  let lines := transcript.notices ++ (error.map SessionError.message).toList
  ⟨if error.isSome then 1 else 0, transcript.out, lines.flatMap (· ++ ['\n'])⟩

end Arguments

/-- Runs a session. -/
def Surroundings.session (surroundings : Surroundings) (arguments : List Text) : Ended :=
  match Arguments.read arguments with
  | .error reply => reply.ended
  | .ok arguments => arguments.session surroundings

end LineFilter
