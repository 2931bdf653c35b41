import LineFilter.Pattern.Bracket
import LineFilter.Pattern.Size
import LineFilter.Text.Letter

/-!
# Reading patterns

A pattern is read from left to right. Groups that are still open wait on a
stack, with the flags to go back to and what stood in front of them.
-/

namespace LineFilter.Pattern

/-- A node and how deep it nests. -/
structure Piece where
  node : Node
  depth : Nat
  /-- Whether it is a setting of flags, which nothing can repeat. -/
  isSetting : Bool

namespace Piece

/-- Pieces side by side, given last first. Two or more nest one deeper. -/
def chain (reversed : List Piece) : Piece :=
  match reversed with
  | [] => ⟨.empty, 0, false⟩
  | [p] => p
  | last :: rest =>
    rest.foldl
      (fun all p => ⟨.concat p.node all.node, max (p.depth + 1) all.depth, false⟩)
      ⟨last.node, last.depth + 1, false⟩

/-- The choice between branches, given last first. -/
def choice (reversed : List Piece) : Piece :=
  match reversed with
  | [] => ⟨.empty, 0, false⟩
  | [p] => p
  | last :: rest =>
    rest.foldl
      (fun all p => ⟨.either p.node all.node, max (p.depth + 1) all.depth, false⟩)
      ⟨last.node, last.depth + 1, false⟩

end Piece

/-- Where a group begins: what stands before it, and the flags outside. -/
structure OpenGroup where
  pieces : List Piece
  branches : List Piece
  flags : Flags
  captures : Bool

/-- What has been read. Pieces, branches and groups are kept last first. -/
structure ReaderState where
  flags : Flags
  pieces : List Piece
  branches : List Piece
  groups : List OpenGroup
  names : List Text

namespace ReaderState

def initial : ReaderState := ⟨.initial, [], [], [], []⟩

def push (s : ReaderState) (node : Node) (depth : Nat) : ReaderState :=
  { s with pieces := ⟨node, depth, false⟩ :: s.pieces }

/-- All branches that have been read since the innermost open group. -/
def body (s : ReaderState) : Piece := .choice (.chain s.pieces :: s.branches)

/-- Begins another branch. -/
def branch (s : ReaderState) : ReaderState :=
  { s with pieces := [], branches := .chain s.pieces :: s.branches }

/-- Begins a group. -/
def openGroup (s : ReaderState) (captures : Bool) (flags : Flags) : ReaderState :=
  ⟨flags, [], [], ⟨s.pieces, s.branches, s.flags, captures⟩ :: s.groups, s.names⟩

/-- Ends the innermost group. -/
def closeGroup (s : ReaderState) : Option ReaderState :=
  match s.groups with
  | [] => none
  | g :: groups =>
    let body := s.body
    let node := if g.captures then .group body.node else body.node
    some ⟨g.flags, ⟨node, body.depth + 1, false⟩ :: g.pieces, g.branches, groups, s.names⟩

/-- Repeats the last piece. -/
def repeatLast (s : ReaderState) (least : Nat) (most : Option Nat) : Option ReaderState :=
  match s.pieces with
  | [] => none
  | p :: rest =>
    if p.isSetting then none
    else some { s with pieces := ⟨.repeated least most p.node, p.depth + 1, false⟩ :: rest }

end ReaderState

namespace Reader

/-- The node for a character by itself. -/
def character (flags : Flags) (c : Char) : Node :=
  if !flags.caseless then .set (.single c)
  else if flags.unicode then .set (.caseless (.single c))
  else .set (.asciiCaseless (.single c))

/-- The set that `.` stands for. Without `u` it would hold parts of characters. -/
def dot (flags : Flags) : Option Node :=
  if !flags.unicode then none
  else if flags.dotAll then some (.set (.complement .empty))
  else if flags.crlf then some (.set (.complement (.ranges [(0x0a, 0x0a), (0x0d, 0x0d)])))
  else some (.set (.complement (.single '\n')))

def lineStart (flags : Flags) : Node :=
  .look (if !flags.multiLine then .textStart else if flags.crlf then .crlfStart else .lineStart)

def lineEnd (flags : Flags) : Node :=
  .look (if !flags.multiLine then .textEnd else if flags.crlf then .crlfEnd else .lineEnd)

/-- The node for an escape. A byte beyond ASCII is no character. -/
def escaped (flags : Flags) : Primitive → Option Node
  | .literal c isByte =>
    if isByte && !flags.unicode && 128 ≤ c.toNat then none else some (character flags c)
  | .set s => some (.set s)
  | .look l => some (.look l)

/-- The flags with one of them set or cleared. -/
def setFlag (flags : Flags) (value : Bool) : Char → Option Flags
  | 'i' => some { flags with caseless := value }
  | 'm' => some { flags with multiLine := value }
  | 's' => some { flags with dotAll := value }
  | 'u' => some { flags with unicode := value }
  | 'R' => some { flags with crlf := value }
  | 'x' => some { flags with extended := value }
  -- Greedy and lazy repetitions match the same texts.
  | 'U' => some flags
  | _ => none

/-- Applies letters of flags; those behind a hyphen are cleared. No letter and
no hyphen may come twice, and a letter has to follow the hyphen. -/
def setFlags (flags : Flags) (seen : Text) (value : Bool) : Text → Option Flags
  | [] => if seen.head? = some '-' then none else some flags
  | c :: cs =>
    if c ∈ seen then none
    else if c = '-' then setFlags flags (c :: seen) false cs
    else (setFlag flags value c).bind fun flags => setFlags flags (c :: seen) value cs

/-- Whether a character may stand in the name of a group. -/
def isNameChar (first : Bool) (c : Char) : Bool :=
  if first then c = '_' || isLetter c
  else c ∈ ['_', '.', '[', ']'] || isAlphanumeric c

/-- Whether a text may name a group. -/
def isGroupName : Text → Bool
  | [] => false
  | c :: cs => isNameChar true c && cs.all (isNameChar false)

/-- Begins a group with a name, which must be new. -/
def namedGroup (s : ReaderState) (cs : Text) : Option (ReaderState × Text) :=
  let name := cs.takeWhile (· ≠ '>')
  match cs.dropWhile (· ≠ '>') with
  | [] => none
  | _ :: rest =>
    if isGroupName name && !s.names.contains name then
      some ({ s with names := name :: s.names }.openGroup true s.flags, rest)
    else none

/-- Begins a group with flags, or sets flags for the rest of the group. -/
def flagGroup (s : ReaderState) (cs : Text) : Option (ReaderState × Text) :=
  let isEnd (c : Char) : Bool := c = ':' || c = ')'
  let letters := cs.takeWhile (!isEnd ·)
  match cs.dropWhile (!isEnd ·) with
  | [] => none
  | c :: rest => do
    let flags ← setFlags s.flags [] true letters
    if c = ':' then return (s.openGroup false flags, rest)
    if letters = [] then none
    return ({ s with flags := flags, pieces := ⟨.empty, 0, true⟩ :: s.pieces }, rest)

/-- Begins a group, or sets flags, from after `(`. There is no looking around. -/
def group (s : ReaderState) (cs : Text) : Option (ReaderState × Text) :=
  match s.flags.skip cs with
  | '?' :: 'P' :: '<' :: cs => namedGroup s cs
  | '?' :: '<' :: cs => namedGroup s cs
  | '?' :: cs => flagGroup s cs
  | cs => some (s.openGroup true s.flags, cs)

/-- Drops the mark of a lazy repetition. -/
def dropLazy : Text → Text
  | '?' :: cs => cs
  | cs => cs

/-- A number between gaps. Blanks around it mean nothing under any flags. -/
def count (flags : Flags) (cs : Text) : Option Nat × Text :=
  let (digits, rest) := flags.collect Text.isDigit cs.dropBlanks
  let rest := (flags.collect isBlank rest).2
  ((Digits.read? 10 digits).filter (· < 4294967296), rest)

/-- Reads the bounds of a repetition, from after its opening brace. -/
def bounds (flags : Flags) (cs : Text) : Option (Nat × Option Nat × Text) := do
  let (first, rest) := count flags (flags.skip cs)
  let least ← first
  let (most, rest) ← match rest with
    | ',' :: rest =>
      match flags.skip rest with
      | '\x7d' :: rest => some (none, '\x7d' :: rest)
      | rest =>
        let (second, rest) := count flags rest
        second.map fun n => (some n, rest)
    | rest => some (some least, rest)
  match rest with
  | '\x7d' :: rest =>
    if most.all (least ≤ ·) then return (least, most, dropLazy (flags.skip rest)) else none
  | _ => none

/-- Reads one piece or operator of a pattern. -/
def step (s : ReaderState) (c : Char) (cs : Text) : Option (ReaderState × Text) :=
  match c with
  | '(' => group s cs
  | ')' => s.closeGroup.map (·, cs)
  | '|' => some (s.branch, cs)
  | '[' =>
    (Bracket.read s.flags cs).map fun (set, depth, rest) => (s.push (.set set) depth, rest)
  | '?' => (s.repeatLast 0 (some 1)).map (·, dropLazy cs)
  | '*' => (s.repeatLast 0 none).map (·, dropLazy cs)
  | '+' => (s.repeatLast 1 none).map (·, dropLazy cs)
  | '\x7b' => do
    let (least, most, rest) ← bounds s.flags cs
    (s.repeatLast least most).map (·, rest)
  | '\\' => do
    let (primitive, rest) ← Escape.read s.flags cs
    return (s.push (← escaped s.flags primitive) 0, rest)
  | '.' => (dot s.flags).map fun node => (s.push node 0, cs)
  | '^' => some (s.push (lineStart s.flags) 0, cs)
  | '$' => some (s.push (lineEnd s.flags) 0, cs)
  | c => some (s.push (character s.flags c) 0, cs)

/-- Reads to the end of a pattern. `fuel` bounds the steps, each of which takes a
character. -/
def steps (s : ReaderState) : Nat → Text → Option ReaderState
  | 0, _ => none
  | fuel + 1, cs =>
    match s.flags.skip cs with
    | [] => some s
    | c :: cs => do
      let (s, rest) ← step s c cs
      steps s fuel rest

/-- How deep a pattern may nest. -/
def nestLimit : Nat := 250

/-- Reads a pattern. -/
def read? (pattern : Text) : Option Node := do
  let s ← steps .initial (pattern.length + 1) pattern
  if s.groups ≠ [] then none
  let body := s.body
  if body.depth ≤ nestLimit && body.node.size ≤ Node.sizeLimit then some body.node else none

end Reader

end LineFilter.Pattern
