import LineFilter.Text.Gap
import LineFilter.Token.Scan

/-!
# The tokens of a script

A cursor is a place in a script and the text from there on. Reading from a
cursor first skips the gap in front of it (white space and comments) and then
reads one token. The stream of a script is all of its tokens, each with its
place, up to the end or to the first text that does not read.
-/

namespace LineFilter

/-- The text that is still to be read, and its place. -/
structure Cursor where
  rest : Text
  place : Position
deriving DecidableEq, Repr

/-- What a cursor finds next. -/
inductive Step
  | finish (place : Position)
  | fault (error : LexError)
  | read (token : Token) (place : Position) (after : Cursor)
deriving DecidableEq, Repr

namespace Cursor

/-- The cursor at the first character of a script. -/
def ofScript (script : Text) : Cursor := ⟨script, .start⟩

/-- The cursor behind the gap in front of it. -/
def skipGap (cursor : Cursor) : Cursor :=
  let (gap, rest) := Text.splitGap false cursor.rest
  ⟨rest, cursor.place.after gap⟩

theorem length_skipGap_le (cursor : Cursor) :
    cursor.skipGap.rest.length ≤ cursor.rest.length :=
  Text.length_splitGap_le false cursor.rest

/-- Reads one token. -/
def next (cursor : Cursor) : Step :=
  let here := cursor.skipGap
  match here.rest with
  | [] => .finish here.place
  | c :: cs =>
    match Token.scan c cs with
    | .error fault => .fault ⟨fault, here.place⟩
    | .ok s => .read s.token here.place ⟨s.rest, here.place.after s.spelling⟩

theorem length_after_lt_of_next {cursor after : Cursor} {token : Token} {place : Position}
    (h : cursor.next = .read token place after) :
    after.rest.length < cursor.rest.length := by
  have hskip := cursor.length_skipGap_le
  simp only [next] at h
  split at h
  · cases h
  · rename_i c cs hrest
    split at h
    · cases h
    · rename_i s hs
      cases h
      have := Token.length_rest_lt_of_scan hs
      rw [hrest] at hskip
      exact Nat.lt_of_lt_of_le this hskip

end Cursor

/-- The tokens of a script with their places. -/
inductive TokenStream
  /-- The end of the script. -/
  | finish (place : Position)
  /-- A text that is no token. -/
  | fault (error : LexError)
  | cons (token : Token) (place : Position) (rest : TokenStream)
deriving Repr

namespace TokenStream

/-- All that a cursor finds. -/
def ofCursor (cursor : Cursor) : TokenStream :=
  match _h : cursor.next with
  | .finish place => .finish place
  | .fault error => .fault error
  | .read token place after => .cons token place (ofCursor after)
termination_by cursor.rest.length
decreasing_by exact Cursor.length_after_lt_of_next _h

/-- The tokens of a script. -/
def ofScript (script : Text) : TokenStream := ofCursor (.ofScript script)

/-- The number of tokens. -/
def length : TokenStream → Nat
  | .finish _ | .fault _ => 0
  | .cons _ _ rest => rest.length + 1

/-- The tokens without their places. -/
def tokens : TokenStream → List Token
  | .finish _ | .fault _ => []
  | .cons token _ rest => token :: rest.tokens

/-- The tokens with their places. -/
def placed : TokenStream → List (Token × Position)
  | .finish _ | .fault _ => []
  | .cons token place rest => (token, place) :: rest.placed

/-- Where the script ends, or the first text that does not read. -/
def ending : TokenStream → Except LexError Position
  | .finish place => .ok place
  | .fault error => .error error
  | .cons _ _ rest => rest.ending

/-- The place of the first token, of the end, or of the fault. -/
def place : TokenStream → Position
  | .finish place => place
  | .fault error => error.place
  | .cons _ place _ => place

/-- The first token. -/
def head? : TokenStream → Option Token
  | .cons token _ _ => some token
  | .finish _ | .fault _ => none

/-- How diagnostics show what comes next. -/
def describe : TokenStream → Text
  | .cons token _ _ => token.describe
  | .finish _ | .fault _ => "end of input".toList

end TokenStream

/-- The tokens of a script, if all of it reads. -/
def tokenize (script : Text) : Except LexError (List Token) :=
  let stream := TokenStream.ofScript script
  stream.ending.map fun _ => stream.tokens

end LineFilter
