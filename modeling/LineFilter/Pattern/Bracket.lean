import LineFilter.Pattern.Escape

/-!
# Sets in brackets

A set in brackets holds characters, ranges, named sets and further brackets.
The operators `&&`, `--` and `~~` combine what stands to their left, all of it,
with what stands to their right.
-/

namespace LineFilter.Pattern

namespace Bracket

inductive SetOperator
  | intersection
  | difference
  | symmetricDifference
deriving DecidableEq, Repr

namespace SetOperator

def apply : SetOperator → CharSet → CharSet → CharSet
  | .intersection, a, b => .inter a b
  | .difference, a, b => a.difference b
  | .symmetricDifference, a, b => a.symmetricDifference b

end SetOperator

/-- Items side by side: their union, their number, and how deep they nest. -/
structure Items where
  set : CharSet
  count : Nat
  depth : Nat

namespace Items

def none : Items := ⟨.empty, 0, 0⟩

def add (items : Items) (set : CharSet) (depth : Nat) : Items :=
  ⟨.union items.set set, items.count + 1, max items.depth depth⟩

/-- How deep the items nest; two or more nest one deeper. -/
def nesting (items : Items) : Nat := if items.count ≤ 1 then items.depth else items.depth + 1

end Items

/-- A bracket that is still open: its items so far, and what an operator has
put aside. -/
structure Level where
  negated : Bool
  items : Items
  left : Option (SetOperator × CharSet × Nat)

namespace Level

/-- The set and the nesting of all that has been read. -/
def combined (flags : Flags) (level : Level) : CharSet × Nat :=
  match level.left with
  | none => (level.items.set, level.items.nesting)
  | some (op, left, depth) =>
    let fold (s : CharSet) : CharSet :=
      if !flags.caseless then s
      else if flags.unicode then .caseless s
      else .asciiCaseless s
    (op.apply (fold left) (fold level.items.set), max depth level.items.nesting + 1)

/-- Puts all that has been read aside for an operator. -/
def operate (flags : Flags) (op : SetOperator) (level : Level) : Level :=
  let (set, depth) := level.combined flags
  ⟨level.negated, .none, some (op, set, depth)⟩

end Level

/-- The sets that are written `[:name:]`. -/
def posix : List (Text × CodeRanges) :=
  [("alnum".toList, [(0x30, 0x39), (0x41, 0x5a), (0x61, 0x7a)]),
    ("alpha".toList, [(0x41, 0x5a), (0x61, 0x7a)]),
    ("ascii".toList, [(0x00, 0x7f)]),
    ("blank".toList, [(0x09, 0x09), (0x20, 0x20)]),
    ("cntrl".toList, [(0x00, 0x1f), (0x7f, 0x7f)]),
    ("digit".toList, [(0x30, 0x39)]),
    ("graph".toList, [(0x21, 0x7e)]),
    ("lower".toList, [(0x61, 0x7a)]),
    ("print".toList, [(0x20, 0x7e)]),
    ("punct".toList, [(0x21, 0x2f), (0x3a, 0x40), (0x5b, 0x60), (0x7b, 0x7e)]),
    ("space".toList, [(0x09, 0x0d), (0x20, 0x20)]),
    ("upper".toList, [(0x41, 0x5a)]),
    ("word".toList, [(0x30, 0x39), (0x41, 0x5a), (0x5f, 0x5f), (0x61, 0x7a)]),
    ("xdigit".toList, [(0x30, 0x39), (0x41, 0x46), (0x61, 0x66)])]

/-- Reads a named set from after its opening bracket, if there is one. -/
def posixSet? : Text → Option (Bool × CodeRanges × Text)
  | ':' :: cs =>
    let (negated, cs) := match cs with
      | '^' :: cs => (true, cs)
      | cs => (false, cs)
    match cs.dropWhile (· ≠ ':') with
    | ':' :: ']' :: rest =>
      (posix.lookup (cs.takeWhile (· ≠ ':'))).map fun ranges => (negated, ranges, rest)
    | _ => none
  | _ => none

/-- Reads hyphens that stand for themselves. -/
def hyphens (flags : Flags) (items : Items) : Nat → Text → Items × Text
  | 0, cs => (items, cs)
  | n + 1, '-' :: cs => hyphens flags (items.add (.single '-') 0) n (flags.skip cs)
  | _ + 1, cs => (items, cs)

/-- Begins a bracket, from after `[`. A hyphen or a closing bracket at its very
beginning stands for itself. -/
def openLevel (flags : Flags) (cs : Text) : Level × Text :=
  let (negated, cs) := match flags.skip cs with
    | '^' :: cs => (true, flags.skip cs)
    | cs => (false, cs)
  let (items, cs) := hyphens flags .none cs.length cs
  match cs with
  | ']' :: rest =>
    if items.count = 0 then (⟨negated, items.add (.single ']') 0, none⟩, flags.skip rest)
    else (⟨negated, items, none⟩, cs)
  | cs => (⟨negated, items, none⟩, cs)

/-- A character that may stand in a bracket under the flags. -/
def admits (flags : Flags) (c : Char) : Bool := flags.unicode || c.toNat < 128

/-- Reads one item: a character or an escape. -/
def primitive (flags : Flags) : Text → Option (Primitive × Text)
  | [] => none
  | '\\' :: cs => Escape.read flags cs
  | c :: cs => some (.literal c false, cs)

/-- The character behind a hyphen; a gap is looked past, and one `#` in it. -/
def peek (flags : Flags) (cs : Text) : Option Char :=
  if !flags.extended then cs.head?
  else
    match cs.dropWhile isBlank with
    | '#' :: rest => (rest.dropWhile isBlank).head? <|> cs.head?
    | rest => rest.head? <|> cs.head?

/-- Reads an item or a range of characters. -/
def item (flags : Flags) (cs : Text) : Option (CharSet × Text) := do
  let (first, rest) ← primitive flags cs
  match flags.skip rest with
  | [] => none
  | c :: after =>
    if c ≠ '-' || peek flags after = some ']' || peek flags after = some '-' then
      match first with
      | .literal d _ => if admits flags d then some (.single d, c :: after) else none
      | .set s => some (s, c :: after)
      | .look _ => none
    else do
      let (last, rest) ← primitive flags (flags.skip after)
      match first, last with
      | .literal low _, .literal high _ =>
        if low ≤ high && admits flags low && admits flags high then
          some (.range low high, rest)
        else none
      | _, _ => none

/-- Reads brackets to the end of the outermost one. `fuel` bounds the steps,
each of which takes a character. -/
def readLevels (flags : Flags) (level : Level) (outer : List Level) :
    Nat → Text → Option (CharSet × Nat × Text)
  | 0, _ => none
  | fuel + 1, cs =>
    match flags.skip cs with
    | [] => none
    | '[' :: cs =>
      match posixSet? cs with
      | some (negated, ranges, rest) => do
        let set ← Escape.finishSet flags negated (.ranges ranges)
        readLevels flags { level with items := level.items.add set 0 } outer fuel rest
      | none =>
        let (inner, rest) := openLevel flags cs
        readLevels flags inner (level :: outer) fuel rest
    | ']' :: rest => do
      let (set, depth) := level.combined flags
      let set ← Escape.finishSet flags level.negated set
      match outer with
      | [] => return (set, depth + 1, rest)
      | parent :: outer =>
        readLevels flags { parent with items := parent.items.add set (depth + 1) } outer fuel rest
    | '&' :: '&' :: rest => readLevels flags (level.operate flags .intersection) outer fuel rest
    | '-' :: '-' :: rest => readLevels flags (level.operate flags .difference) outer fuel rest
    | '~' :: '~' :: rest =>
      readLevels flags (level.operate flags .symmetricDifference) outer fuel rest
    | cs => do
      let (set, rest) ← item flags cs
      readLevels flags { level with items := level.items.add set 0 } outer fuel rest

/-- Reads a bracket from after `[`: its set and how deep it nests. -/
def read (flags : Flags) (cs : Text) : Option (CharSet × Nat × Text) :=
  let (level, rest) := openLevel flags cs
  readLevels flags level [] (rest.length + 1) rest

end Bracket

end LineFilter.Pattern
