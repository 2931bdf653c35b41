import LineFilter.Program.Execution

/-!
# Transcripts

What a run has done so far: the text it wrote, the notices it gave, its counts
and the failure that ended it. Transcripts go one behind the other up to the
first with a failure, so that a run is the sequence of its parts.
-/

namespace LineFilter

/-- What keeps a file from being read. -/
inductive FileError
  | notFound
  | notDirectory
  | isDirectory
  | nameTooLong
  | permissionDenied
  /-- The octets of a file spell no text. -/
  | notText
  | other (reason : Text)
deriving DecidableEq, Repr

def FileError.message : FileError → Text
  | .notFound => "No such file or directory (os error 2)".toList
  | .permissionDenied => "Permission denied (os error 13)".toList
  | .notDirectory => "Not a directory (os error 20)".toList
  | .isDirectory => "Is a directory (os error 21)".toList
  | .nameTooLong => "File name too long (os error 36)".toList
  | .notText => "stream did not contain valid UTF-8".toList
  | .other reason => reason

/-- What ends a run. -/
inductive RunError
  | rule (rule : Rule) (cause : EvalError)
  /-- An input that breaks off. -/
  | input (cause : FileError)
deriving DecidableEq

def RunError.message : RunError → Text
  | .rule failing cause =>
    "could not evaluate rule ".toList ++ failing.describe ++ ": ".toList ++ cause.message
  | .input cause => "IO error: ".toList ++ cause.message

/-- The counts of a run. -/
structure Tally where
  lines : Nat
  /-- Selections that held. -/
  selected : Nat
  /-- Rules that failed and were passed over. -/
  errors : Nat
  /-- Inputs that could not be opened. -/
  unreadable : Nat
deriving DecidableEq, Repr

namespace Tally

def zero : Tally := ⟨0, 0, 0, 0⟩

def plus (a b : Tally) : Tally :=
  ⟨a.lines + b.lines, a.selected + b.selected, a.errors + b.errors, a.unreadable + b.unreadable⟩

@[simp] theorem zero_plus (a : Tally) : zero.plus a = a := by simp [zero, plus]

@[simp] theorem plus_zero (a : Tally) : a.plus zero = a := rfl

theorem plus_assoc (a b c : Tally) : (a.plus b).plus c = a.plus (b.plus c) := by
  simp [plus, Nat.add_assoc]

end Tally

structure Transcript where
  out : Text
  notices : List Text
  tally : Tally
  failure : Option RunError
deriving DecidableEq

namespace Transcript

def empty : Transcript := ⟨[], [], .zero, none⟩

/-- Some text was written. -/
def wrote (text : Text) : Transcript := { empty with out := text }

/-- Something was noticed that does not end the run. -/
def noticed (notice : Text) : Transcript := { empty with notices := [notice] }

def counted (tally : Tally) : Transcript := { empty with tally := tally }

def failed (failure : RunError) : Transcript := { empty with failure := some failure }

/-- One transcript behind another, unless that one failed. -/
def followedBy (first second : Transcript) : Transcript :=
  match first.failure with
  | some _ => first
  | none => ⟨first.out ++ second.out, first.notices ++ second.notices,
      first.tally.plus second.tally, second.failure⟩

/-- Transcripts in order, up to the first with a failure. -/
def sequence (parts : List Transcript) : Transcript := parts.foldr followedBy empty

@[simp] theorem empty_followedBy (t : Transcript) : empty.followedBy t = t := by
  simp [followedBy, empty]

@[simp] theorem followedBy_empty (t : Transcript) : t.followedBy empty = t := by
  obtain ⟨out, notices, tally, failure⟩ := t
  cases failure <;> simp [followedBy, empty]

theorem followedBy_assoc (a b c : Transcript) :
    (a.followedBy b).followedBy c = a.followedBy (b.followedBy c) := by
  obtain ⟨out, notices, tally, failure⟩ := a
  obtain ⟨out', notices', tally', failure'⟩ := b
  cases failure <;> cases failure' <;> simp [followedBy, Tally.plus_assoc]

@[simp] theorem sequence_nil : sequence [] = empty := rfl

@[simp] theorem sequence_cons (t : Transcript) (rest : List Transcript) :
    sequence (t :: rest) = t.followedBy (sequence rest) := rfl

theorem sequence_append (left right : List Transcript) :
    sequence (left ++ right) = (sequence left).followedBy (sequence right) := by
  induction left with
  | nil => simp
  | cons t rest ih => simp [ih, followedBy_assoc]

end Transcript

end LineFilter
