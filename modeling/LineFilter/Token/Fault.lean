import LineFilter.Position

/-!
# Texts that are no token

Each way in which no token can be read at a place of a script.
-/

namespace LineFilter

inductive LexFault
  /-- `%` without a number or `#`. -/
  | noColumnNumber
  /-- A backslash before a character that has no escape. -/
  | badEscape (c : Char)
  | unterminatedString
  | unterminatedRegex
  /-- A single `=`. -/
  | loneEquals
  /-- A character that begins no token. -/
  | strayCharacter (c : Char)
deriving DecidableEq, Repr

/-- A fault and the start of the text that does not read. -/
structure LexError where
  fault : LexFault
  place : Position
deriving DecidableEq, Repr

namespace LexFault

def message : LexFault → Text
  | .noColumnNumber => "expected a column number or '#' after '%'".toList
  | .badEscape c => "invalid escape sequence \\".toList ++ [c]
  | .unterminatedString => "unterminated string".toList
  | .unterminatedRegex => "unterminated regular expression".toList
  | .loneEquals => "unexpected '=' (did you mean '==')".toList
  | .strayCharacter c => "unexpected character '".toList ++ [c, '\'']

end LexFault

def LexError.message (e : LexError) : Text :=
  e.fault.message ++ " at ".toList ++ e.place.describe

end LineFilter
