import LineFilter.Pattern.Node

/-!
# Finding a pattern in a text

The places of a text of `n` characters are numbered from 0 to `n`. A set of
places is a natural number, one bit per place, and a pattern moves a set of
places to the set of places where a match from one of them may end.
-/

namespace LineFilter.Pattern

/-- The number with the given bits, lowest first. -/
def ofBits (bits : List Bool) : Nat :=
  bits.foldr (fun bit n => 2 * n + bit.toNat) 0

/-- What a pattern does to places of one text. -/
inductive Move
  | stay
  /-- Passes a character that stands behind one of these places. -/
  | pass (places : Nat)
  /-- Stays at one of these places. -/
  | check (places : Nat)
  | sequence (first second : Move)
  | choice (left right : Move)
  | repeated (least : Nat) (most : Option Nat) (move : Move)

/-- The places of a text where a condition holds. -/
def Look.places (look : Look) (text : Text) : Nat :=
  ofBits (List.zipWith look.holds (none :: text.map some) (text.map some ++ [none]))

/-- The moves of a pattern over a text. -/
def Node.over (text : Text) : Node → Move
  | .empty => .stay
  | .set s => .pass (ofBits (text.map s.has))
  | .look l => .check (l.places text)
  | .concat a b => .sequence (a.over text) (b.over text)
  | .either a b => .choice (a.over text) (b.over text)
  | .repeated least most a => .repeated least most (a.over text)
  | .group a => a.over text

namespace Move

/-- Applies `f` a number of times, for as long as there are places. -/
def times (f : Nat → Nat) : Nat → Nat → Nat
  | 0, places => places
  | n + 1, places => if places = 0 then 0 else times f n (f places)

/-- All places reached by applying `f` at most so many times; `fresh` are those
reached last. -/
def spread (f : Nat → Nat) : Nat → Nat → Nat → Nat
  | 0, reached, _ => reached
  | n + 1, reached, fresh =>
    let next := f fresh
    let fresh := next ^^^ (next &&& reached)
    if fresh = 0 then reached else spread f n (reached ||| fresh) fresh

/-- The places where moves from a set of places end, in a text of `n` characters. -/
def run (n : Nat) : Move → Nat → Nat
  | .stay, places => places
  | .pass allowed, places => (places &&& allowed) <<< 1
  | .check allowed, places => places &&& allowed
  | .sequence a b, places => b.run n (a.run n places)
  | .choice a b, places => a.run n places ||| b.run n places
  | .repeated least most a, places =>
    let places := times (a.run n) least places
    let more := match most with
      | none => n + 1
      | some most => min (most - least) (n + 1)
    spread (a.run n) more places places

end Move

/-- Whether a pattern matches somewhere in a text. -/
def Node.occursIn (node : Node) (text : Text) : Bool :=
  (node.over text).run text.length (Nat.pow 2 (text.length + 1) - 1) ≠ 0

end LineFilter.Pattern
