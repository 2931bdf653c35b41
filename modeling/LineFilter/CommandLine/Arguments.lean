import LineFilter.Text.Basic

/-!
# Arguments

Arguments are options and words. An option is a flag or a setting with a value;
it is spelled out behind two dashes, or as a letter behind one, where letters
may be put together. The value of a setting is the rest of its own argument or
the argument behind it. Behind a bare `--` there are only words.
-/

namespace LineFilter

/-- Options without a value. -/
inductive Flag
  | verbose
  | syntaxOnly
  | report
  | keepGoing
  | help
  | version
deriving DecidableEq, Repr

/-- Options with a value. -/
inductive Setting
  | expression
  | file
deriving DecidableEq, Repr

inductive Switch
  | flag (flag : Flag)
  | setting (setting : Setting)
deriving DecidableEq, Repr

namespace Switch

/-- The names of the options, and their letters where they have one. -/
def names : List (Text × Option Char × Switch) := [
  ("expression".toList, some 'e', .setting .expression),
  ("file".toList, some 'f', .setting .file),
  ("verbose".toList, some 'v', .flag .verbose),
  ("syntax-only".toList, none, .flag .syntaxOnly),
  ("report".toList, none, .flag .report),
  ("keep-going".toList, none, .flag .keepGoing),
  ("help".toList, some 'h', .flag .help),
  ("version".toList, some 'V', .flag .version)]

def ofName? (name : Text) : Option Switch := (names.find? (·.1 = name)).map (·.2.2)

def ofLetter? (letter : Char) : Option Switch :=
  (names.find? (·.2.1 = some letter)).map (·.2.2)

def name (switch : Switch) : Text := ((names.find? (·.2.2 = switch)).map (·.1)).getD []

end Switch

/-- Arguments that can not be understood. -/
inductive UsageError
  | unknownOption (spelling : Text)
  | missingValue (setting : Setting)
  | unwantedValue (flag : Flag)
  | repeated (switch : Switch)
deriving DecidableEq, Repr

namespace UsageError

def message : UsageError → Text
  | .unknownOption spelling => "unexpected argument '".toList ++ spelling ++ "' found".toList
  | .missingValue setting =>
    "a value is required for '--".toList ++ (Switch.setting setting).name ++ "'".toList
  | .unwantedValue flag =>
    "unexpected value for '--".toList ++ (Switch.flag flag).name ++ "' found".toList
  | .repeated switch =>
    "the argument '--".toList ++ switch.name ++ "' cannot be used multiple times".toList

end UsageError

/-- What an argument, or a part of one, says. -/
inductive ArgumentItem
  | given (flag : Flag)
  | assigned (setting : Setting) (value : Text)
  | word (text : Text)
  | wrong (cause : UsageError)
deriving DecidableEq, Repr

namespace ArgumentItem

/-- What letters behind a dash say, and the setting that is left without its
value. -/
def ofLetters : Text → List ArgumentItem × Option Setting
  | [] => ([], none)
  | c :: cs =>
    match Switch.ofLetter? c with
    | none => ([.wrong (.unknownOption ['-', c])], none)
    | some (.flag flag) =>
      let (items, left) := ofLetters cs
      (.given flag :: items, left)
    | some (.setting setting) =>
      match cs with
      | [] => ([], some setting)
      | '=' :: value => ([.assigned setting value], none)
      | value => ([.assigned setting value], none)

/-- What a name behind two dashes says, and the setting that is left without its
value. -/
def ofName (text : Text) : List ArgumentItem × Option Setting :=
  let name := text.takeWhile (· ≠ '=')
  let value := (text.dropWhile (· ≠ '=')).tail?
  match Switch.ofName? name, value with
  | none, _ => ([.wrong (.unknownOption ('-' :: '-' :: name))], none)
  | some (.flag flag), none => ([.given flag], none)
  | some (.flag flag), some _ => ([.wrong (.unwantedValue flag)], none)
  | some (.setting setting), none => ([], some setting)
  | some (.setting setting), some value => ([.assigned setting value], none)

/-- Whether an argument is spelled like an option. -/
def isOption : Text → Bool
  | '-' :: _ :: _ => true
  | _ => false

/-- What one argument says. -/
def ofArgument : Text → List ArgumentItem × Option Setting
  | '-' :: '-' :: name => ofName name
  | '-' :: c :: cs => ofLetters (c :: cs)
  | text => ([.word text], none)

/-- What arguments say behind a setting that may wait for its value. -/
def ofArguments : Option Setting → List Text → List ArgumentItem
  | none, [] => []
  | some setting, [] => [.wrong (.missingValue setting)]
  | some setting, argument :: rest =>
    if isOption argument then [.wrong (.missingValue setting)]
    else .assigned setting argument :: ofArguments none rest
  | none, argument :: rest =>
    if argument = ['-', '-'] then rest.map .word
    else
      let (items, left) := ofArgument argument
      items ++ ofArguments left rest

end ArgumentItem

structure Arguments where
  expression : Option Text
  file : Option Text
  verbosity : Nat
  syntaxOnly : Bool
  report : Bool
  keepGoing : Bool
  words : List Text
deriving DecidableEq, Repr

/-- What arguments ask for in place of a run. -/
inductive Reply
  | help
  | version
  | usage (error : UsageError)
deriving DecidableEq, Repr

namespace Arguments

def none : Arguments := ⟨.none, .none, 0, false, false, false, []⟩

/-- Takes a flag, which only `verbose` can be more than once. -/
def takeFlag (arguments : Arguments) (flag : Flag) : Except Reply Arguments :=
  let once (seen : Bool) (taken : Arguments) : Except Reply Arguments :=
    if seen then .error (.usage (.repeated (.flag flag))) else .ok taken
  match flag with
  | .verbose => .ok { arguments with verbosity := arguments.verbosity + 1 }
  | .syntaxOnly => once arguments.syntaxOnly { arguments with syntaxOnly := true }
  | .report => once arguments.report { arguments with report := true }
  | .keepGoing => once arguments.keepGoing { arguments with keepGoing := true }
  | .help => .error .help
  | .version => .error .version

/-- Takes a setting, once. The name of a file is not empty. -/
def takeSetting (arguments : Arguments) (setting : Setting) (value : Text) :
    Except Reply Arguments :=
  let once (seen : Option Text) (taken : Arguments) : Except Reply Arguments :=
    if seen.isSome then .error (.usage (.repeated (.setting setting))) else .ok taken
  match setting with
  | .expression => once arguments.expression { arguments with expression := some value }
  | .file =>
    if value = [] then .error (.usage (.missingValue .file))
    else once arguments.file { arguments with file := some value }

def take (arguments : Arguments) : ArgumentItem → Except Reply Arguments
  | .given flag => arguments.takeFlag flag
  | .assigned setting value => arguments.takeSetting setting value
  | .word text => .ok { arguments with words := arguments.words ++ [text] }
  | .wrong cause => .error (.usage cause)

/-- Reads arguments from left to right, up to the first that decides. -/
def read (arguments : List Text) : Except Reply Arguments :=
  (ArgumentItem.ofArguments .none arguments).foldlM take none

end Arguments

end LineFilter
