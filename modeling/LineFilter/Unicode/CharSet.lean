import LineFilter.Number.Digits
import LineFilter.Text.CodeRanges
import LineFilter.Unicode.CaseFold

/-!
# Sets of characters, combined

Sets built from ranges by the operations of set algebra, and by letting in
whatever differs from a member in case only.
-/

namespace LineFilter

namespace CodeRanges

/-- The ranges behind a code point, from pairs of a gap and a length less one. -/
def ofGaps (next : Nat) : List Nat → CodeRanges
  | gap :: length :: rest =>
    (next + gap, next + gap + length) :: ofGaps (next + gap + length + 1) rest
  | _ => []

/-- Reads packed ranges: gaps and lengths in base 36. -/
def unpack (packed : String) : CodeRanges :=
  ofGaps 0 ((Text.runs (· = ' ') packed.toList).filterMap (Digits.read? 36))

end CodeRanges

inductive CharSet
  | ranges (ranges : CodeRanges)
  | union (left right : CharSet)
  | inter (left right : CharSet)
  | complement (set : CharSet)
  /-- With all that differs from a member in case only. -/
  | caseless (set : CharSet)
  /-- With the other case of ASCII letters. -/
  | asciiCaseless (set : CharSet)
deriving Repr

namespace CharSet

def empty : CharSet := .ranges []

def single (c : Char) : CharSet := .ranges [(c.toNat, c.toNat)]

def range (low high : Char) : CharSet := .ranges [(low.toNat, high.toNat)]

def difference (left right : CharSet) : CharSet := .inter left (.complement right)

def symmetricDifference (left right : CharSet) : CharSet :=
  .union (difference left right) (difference right left)

/-- The other case of an ASCII letter. -/
def otherCase (n : Nat) : Nat :=
  if 0x41 ≤ n && n ≤ 0x5a then n + 0x20 else if 0x61 ≤ n && n ≤ 0x7a then n - 0x20 else n

/-- Membership of a code point. -/
def hasCode : CharSet → Nat → Bool
  | .ranges r, n => r.has n
  | .union a b, n => a.hasCode n || b.hasCode n
  | .inter a b, n => a.hasCode n && b.hasCode n
  | .complement a, n => !a.hasCode n
  | .caseless a, n => a.hasCode n || (Unicode.caseOrbit n).any a.hasCode
  | .asciiCaseless a, n => a.hasCode n || a.hasCode (otherCase n)

def has (s : CharSet) (c : Char) : Bool := s.hasCode c.toNat

/-- The largest range in which every character is looked up for its other cases. -/
def spelledOut : Nat := 128

/-- The ranges of a set. The other cases of characters in long ranges are left
out, since a long range of letters has them already or nearly so. -/
def toRanges : CharSet → CodeRanges
  | .ranges r => CodeRanges.merge r []
  | .union a b => a.toRanges.merge b.toRanges
  | .inter a b => a.toRanges.common b.toRanges
  | .complement a => a.toRanges.complement
  | .caseless a =>
    let ranges := a.toRanges
    let members := ranges.flatMap fun (low, high) =>
      if high - low < spelledOut then List.range' low (high + 1 - low) else []
    (members.flatMap Unicode.caseOrbit).foldl (fun ranges n => ranges.insert n n) ranges
  | .asciiCaseless a =>
    let ranges := a.toRanges
    let letters := (List.range 128).filter fun n => otherCase n ≠ n && ranges.has n
    letters.foldl (fun ranges n => ranges.insert (otherCase n) (otherCase n)) ranges

end CharSet

end LineFilter
