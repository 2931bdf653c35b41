import LineFilter.Pattern.Node

/-!
# The size of a pattern

A pattern that would take too large an automaton is refused. The automaton reads
octets: a set of characters is a tree of sequences of octet ranges, one sequence
for each part of the set whose octets vary independently.
-/

namespace LineFilter.Pattern

/-- Ranges of octets, one behind the other. -/
abbrev OctetRanges := List (Nat × Nat)

namespace OctetRanges

/-- The sequences for the numbers from `low` to `high` written in base 64, with
so many digits behind the first. -/
def digits : Nat → Nat → Nat → List OctetRanges
  | 0, low, high => [[(low, high)]]
  | n + 1, low, high =>
    let base := Nat.pow 64 (n + 1)
    let first := low / base
    let last := high / base
    if first = last then
      (digits n (low % base) (high % base)).map ((first, first) :: ·)
    else
      let ragged := low % base ≠ 0
      let short := high % base ≠ base - 1
      let start := if ragged then first + 1 else first
      let stop := if short then last else last + 1
      (if ragged then (digits n (low % base) (base - 1)).map ((first, first) :: ·) else []) ++
        (if start < stop then [(start, stop - 1) :: List.replicate (n + 1) (0, 63)] else []) ++
        (if short then (digits n 0 (high % base)).map ((last, last) :: ·) else [])

/-- The part of a range between two bounds, if there is one. -/
def clip (low high : Nat) (range : Nat × Nat) : Option (Nat × Nat) :=
  if max low range.1 ≤ min high range.2 then some (max low range.1, min high range.2) else none

/-- The code points that take the same number of octets, and how many octets
come behind the first. The gap is that of the surrogates. -/
def blocks : List (Nat × Nat × Nat) :=
  [(0, 0x7f, 0), (0x80, 0x7ff, 1), (0x800, 0xd7ff, 2), (0xe000, 0xffff, 2), (0x10000, 0x10ffff, 3)]

/-- The sequences for a range of characters, each behind the number of octets. -/
def ofRange (range : Nat × Nat) : List OctetRanges :=
  blocks.flatMap fun (low, high, more) =>
    match clip low high range with
    | some (low, high) => (digits more low high).map ((more, more) :: ·)
    | none => []

/-- The length of what two sequences begin with in common. -/
def shared : OctetRanges → OctetRanges → Nat
  | a :: as, b :: bs => if a = b then shared as bs + 1 else 0
  | _, _ => 0

/-- The nodes of the tree of sequences in order, behind a sequence. -/
def nodes (before : OctetRanges) : List OctetRanges → Nat
  | [] => 0
  | s :: rest => s.length - max 1 (shared before s) + nodes s rest

end OctetRanges

/-- The octets of a character. -/
def octetCount (n : Nat) : Nat :=
  if n < 0x80 then 1 else if n < 0x800 then 2 else if n < 0x10000 then 3 else 4

/-- What the tree of a set of characters takes. -/
def treeSize (ranges : CodeRanges) : Nat :=
  let sequences := ranges.flatMap OctetRanges.ofRange
  64 + 4 * sequences.length + 32 * OctetRanges.nodes [] sequences

/-- What a set of characters takes, in bytes: 32 for a state and some for each
way out of it. -/
def setSize (ranges : CodeRanges) : Nat :=
  match ranges with
  | [(low, high)] =>
    if low = high then 32 * octetCount low
    else if high < 128 then 72
    else treeSize ranges
  | ranges => if ranges.all (·.2 < 128) then 64 + 8 * ranges.length else treeSize ranges

namespace Node

/-- Whether a pattern matches nothing but the empty text. -/
def isEmptyOnly : Node → Bool
  | .empty | .look _ => true
  | .set _ => false
  | .concat a b | .either a b => a.isEmptyOnly && b.isEmptyOnly
  | .repeated _ most a => most = some 0 || a.isEmptyOnly
  | .group a => a.isEmptyOnly

/-- About the bytes that the automaton of a pattern takes. -/
def size : Node → Nat
  | .empty | .look _ => 32
  | .set s => setSize s.toRanges
  | .concat a b => a.size + b.size
  | .either a b => a.size + b.size + 72
  | .repeated least most a =>
    match most with
    | none => max 1 least * a.size + 72
    | some most =>
      if a.isEmptyOnly then min most 1 * a.size + 32
      else least * a.size + (most - least) * (a.size + 40) + 32
  | .group a => a.size + 64

/-- The size that no pattern may exceed. -/
def sizeLimit : Nat := 10 * 1024 * 1024

end Node

end LineFilter.Pattern
