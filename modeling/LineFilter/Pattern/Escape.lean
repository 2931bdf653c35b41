import LineFilter.Pattern.Node
import LineFilter.Text.Gap

/-!
# Escapes in patterns

What a backslash and the characters behind it stand for: a character, a set of
characters, or a condition on the place. Under the flag `x` gaps may stand
almost anywhere, also inside escapes.
-/

namespace LineFilter.Pattern

/-- The flags in force at a place of a pattern. -/
structure Flags where
  /-- `i`: letters stand for both cases. -/
  caseless : Bool
  /-- `m`: `^` and `$` hold at line ends. -/
  multiLine : Bool
  /-- `s`: `.` stands for line ends too. -/
  dotAll : Bool
  /-- `u`: sets are those of Unicode and not of ASCII. -/
  unicode : Bool
  /-- `R`: a carriage return ends a line too. -/
  crlf : Bool
  /-- `x`: gaps mean nothing. -/
  extended : Bool
deriving DecidableEq, Repr

namespace Flags

/-- The flags at the start of a pattern. -/
def initial : Flags := ⟨false, false, false, true, false, false⟩

/-- Drops a gap, if gaps mean nothing. -/
def skip (flags : Flags) (cs : Text) : Text :=
  if flags.extended then (Text.splitGap false cs).2 else cs

theorem length_skip_le (flags : Flags) (cs : Text) : (flags.skip cs).length ≤ cs.length := by
  unfold skip
  split
  · exact Text.length_splitGap_le false cs
  · exact Nat.le_refl _

/-- The leading characters that satisfy `p`, gaps between them dropped, and the
rest. -/
def collect (flags : Flags) (p : Char → Bool) : Text → Text × Text
  | [] => ([], [])
  | c :: cs =>
    if p c then
      let (taken, rest) := collect flags p (flags.skip cs)
      (c :: taken, rest)
    else ([], c :: cs)
termination_by cs => cs.length
decreasing_by exact Nat.lt_succ_of_le (length_skip_le flags cs)

end Flags

/-- What stands between the operators of a pattern. -/
inductive Primitive
  /-- A character; `isByte` if it is written as two hexadecimal digits. -/
  | literal (c : Char) (isByte : Bool)
  | set (set : CharSet)
  | look (look : Look)
deriving Repr

namespace Escape

def isHexDigit (c : Char) : Bool := (Digits.worthIn? 16 c).isSome

/-- The character with a code point in hexadecimal digits. -/
def codePoint? (digits : Text) : Option Char :=
  (Digits.read? 16 digits).bind fun n =>
    if n.isValidChar then some (Char.ofNat n) else none

/-- So many hexadecimal digits and what follows. -/
def hexDigits (flags : Flags) : Nat → Text → Option (Text × Text)
  | 0, cs => some ([], cs)
  | n + 1, c :: cs =>
    if isHexDigit c then
      (hexDigits flags n (flags.skip cs)).map fun (digits, rest) => (c :: digits, rest)
    else none
  | _ + 1, [] => none

/-- Reads what stands between braces, from after the opening one, up to and
without the closing one. -/
def braced (flags : Flags) (cs : Text) : Option (Text × Text) :=
  match flags.collect (· ≠ '\x7d') (flags.skip cs) with
  | (_, []) => none
  | (inner, _ :: rest) => some (inner, rest)

/-- Reads a code point: between braces, or in so many digits. -/
def hex (flags : Flags) (width : Nat) (cs : Text) : Option (Primitive × Text) :=
  match flags.skip cs with
  | '\x7b' :: cs => do
    let (digits, rest) ← braced flags cs
    let c ← codePoint? digits
    return (.literal c false, flags.skip rest)
  | cs => do
    let (digits, rest) ← hexDigits flags width cs
    let c ← codePoint? digits
    return (.literal c (width = 2), rest)

/-- A set, folded as the flags say, and then turned round if it is negated.
Without `u` a set holds ASCII characters only, so it cannot be negated. -/
def finishSet (flags : Flags) (negated : Bool) (set : CharSet) : Option CharSet :=
  if flags.unicode then
    let set := if flags.caseless then .caseless set else set
    some (if negated then .complement set else set)
  else if negated then none
  else some (if flags.caseless then .asciiCaseless set else set)

/-- Whether a text holds another one, and what stands before and after it. -/
def splitAt? (mark : Text) : Text → Option (Text × Text)
  | [] => none
  | c :: cs =>
    if mark.isPrefixOf (c :: cs) then some ([], (c :: cs).drop mark.length)
    else (splitAt? mark cs).map fun (before, after) => (c :: before, after)

/-- The set that the inside of a property's braces names, and whether it is
negated there. -/
def propertySet (name : Text) : Option (CharSet × Bool) :=
  match splitAt? ['!', '='] name with
  | some (property, value) => (Unicode.valued? property value).map (·, true)
  | none =>
    match splitAt? [':'] name with
    | some (property, value) => (Unicode.valued? property value).map (·, false)
    | none =>
      match splitAt? ['='] name with
      | some (property, value) => (Unicode.valued? property value).map (·, false)
      | none => (Unicode.named? name).map (·, false)

/-- Reads a property from after `p` or `P`: one letter, or a name in braces. -/
def property (flags : Flags) (negated : Bool) (cs : Text) : Option (Primitive × Text) := do
  let (name, rest) ← match flags.skip cs with
    | [] => none
    | '\x7b' :: cs => braced flags cs
    | c :: cs => if c = '\\' then none else some ([c], flags.skip cs)
  if !flags.unicode then none
  let (set, inverted) ← propertySet name
  let set ← finishSet flags (negated != inverted) set
  return (.set set, rest)

/-- The sets `d`, `s` and `w`. -/
def classSet (flags : Flags) (negated : Bool) (letter : Char) : Option CharSet :=
  let set : CharSet :=
    if flags.unicode then
      match letter with
      | 'd' => Unicode.digits
      | 's' => Unicode.blanks
      | _ => Unicode.wordCharacters
    else
      match letter with
      | 'd' => .range '0' '9'
      | 's' => .ranges [(0x09, 0x0d), (0x20, 0x20)]
      | _ => asciiWord
  if negated then (if flags.unicode then some (.complement set) else none) else some set

/-- Reads a word boundary from after `\b`: it may name its side in braces. Braces
that begin otherwise are left for a repetition. -/
def boundary (flags : Flags) (cs : Text) : Option (Look × Text) :=
  let plain : Look := .wordBoundary flags.unicode
  let isNameChar (c : Char) : Bool := c.isAlpha || c = '-'
  match cs with
  | '\x7b' :: inner =>
    match flags.skip inner with
    | [] => none
    | c :: inner =>
      if isNameChar c then
        match flags.collect isNameChar (c :: inner) with
        | (name, '\x7d' :: rest) =>
          if name = "start".toList then some (.wordStart flags.unicode, rest)
          else if name = "end".toList then some (.wordEnd flags.unicode, rest)
          else if name = "start-half".toList then some (.wordStartHalf flags.unicode, rest)
          else if name = "end-half".toList then some (.wordEndHalf flags.unicode, rest)
          else none
        | _ => none
      else some (plain, cs)
  | _ => some (plain, cs)

/-- The characters that have a meaning of their own in some place of a pattern. -/
def isMeta (c : Char) : Bool := c ∈ "\\.+*?()|[]\x7b\x7d^$#&-~".toList

/-- Whether a backslash before a character leaves it as it is. -/
def isPlainEscape (c : Char) : Bool :=
  isMeta c || (c.toNat < 128 && !c.isAlphanum && c ≠ '<' && c ≠ '>')

/-- Reads an escape from after its backslash. -/
def read (flags : Flags) : Text → Option (Primitive × Text)
  | [] => none
  | c :: cs =>
    let char (d : Char) : Option (Primitive × Text) := some (.literal d false, cs)
    let look (l : Look) : Option (Primitive × Text) := some (.look l, cs)
    let set (negated : Bool) (letter : Char) : Option (Primitive × Text) :=
      (classSet flags negated letter).map fun s => (.set s, cs)
    match c with
    | 'x' => hex flags 2 cs
    | 'u' => hex flags 4 cs
    | 'U' => hex flags 8 cs
    | 'p' => property flags false cs
    | 'P' => property flags true cs
    | 'd' | 's' | 'w' => set false c
    | 'D' | 'S' | 'W' => set true c.toLower
    | 'a' => char '\x07'
    | 'f' => char '\x0c'
    | 't' => char '\t'
    | 'n' => char '\n'
    | 'r' => char '\r'
    | 'v' => char '\x0b'
    | 'A' => look .textStart
    | 'z' => look .textEnd
    | 'b' => (boundary flags cs).map fun (l, rest) => (.look l, rest)
    | 'B' => look (.notWordBoundary flags.unicode)
    | '<' => look (.wordStart flags.unicode)
    | '>' => look (.wordEnd flags.unicode)
    | c => if isPlainEscape c then char c else none

end Escape

end LineFilter.Pattern
