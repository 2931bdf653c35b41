import LineFilter.Unicode.Query

/-!
# Patterns

A pattern is built from sets of characters and from conditions on a place in
the text.
-/

namespace LineFilter.Pattern

/-- A condition on the characters before and after a place. -/
inductive Look
  | textStart
  | textEnd
  /-- After a line feed. -/
  | lineStart
  | lineEnd
  /-- After a line end of either kind, and not inside one. -/
  | crlfStart
  | crlfEnd
  | wordBoundary (unicode : Bool)
  | notWordBoundary (unicode : Bool)
  | wordStart (unicode : Bool)
  | wordEnd (unicode : Bool)
  | wordStartHalf (unicode : Bool)
  | wordEndHalf (unicode : Bool)
deriving DecidableEq, Repr

/-- The word characters of ASCII. -/
def asciiWord : CharSet := .ranges [(0x30, 0x39), (0x41, 0x5a), (0x5f, 0x5f), (0x61, 0x7a)]

namespace Look

/-- Whether there is a character of words. -/
def isWord (unicode : Bool) (c : Option Char) : Bool :=
  c.any (if unicode then Unicode.wordCharacters else asciiWord).has

/-- Whether the condition holds between two characters, or at an end. -/
def holds (before after : Option Char) : Look → Bool
  | .textStart => before.isNone
  | .textEnd => after.isNone
  | .lineStart => before.isNone || before = some '\n'
  | .lineEnd => after.isNone || after = some '\n'
  | .crlfStart =>
    before.isNone || before = some '\n' || (before = some '\r' && after ≠ some '\n')
  | .crlfEnd => after.isNone || after = some '\r' || (after = some '\n' && before ≠ some '\r')
  | .wordBoundary u => isWord u before != isWord u after
  | .notWordBoundary u => isWord u before == isWord u after
  | .wordStart u => !isWord u before && isWord u after
  | .wordEnd u => isWord u before && !isWord u after
  | .wordStartHalf u => !isWord u before
  | .wordEndHalf u => !isWord u after

end Look

inductive Node
  | empty
  | set (set : CharSet)
  | look (look : Look)
  | concat (first second : Node)
  | either (left right : Node)
  /-- At least `least` times, and at most `most` times if given. -/
  | repeated (least : Nat) (most : Option Nat) (node : Node)
  | group (node : Node)
deriving Repr

end LineFilter.Pattern
