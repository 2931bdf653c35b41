import LineFilter.Text.Basic

/-!
# JSON strings

A text between quotation marks, on one line: a quotation mark, a backslash and
the characters below U+0020 are escaped, and all others stand for themselves.
-/

namespace LineFilter.Text

/-- One digit of base 16, in lower case. -/
def hexDigit (n : Nat) : Char := Nat.digitChar (n % 16)

/-- A character inside of a JSON string. -/
def jsonEscape (c : Char) : Text :=
  match c with
  | '"' => ['\\', '"']
  | '\\' => ['\\', '\\']
  | '\x08' => ['\\', 'b']
  | '\x0c' => ['\\', 'f']
  | '\n' => ['\\', 'n']
  | '\r' => ['\\', 'r']
  | '\t' => ['\\', 't']
  | c =>
    if c.toNat < 0x20 then ['\\', 'u', '0', '0', hexDigit (c.toNat / 16), hexDigit c.toNat]
    else [c]

/-- A text as a JSON string. -/
def json (text : Text) : Text := '"' :: text.flatMap jsonEscape ++ ['"']

end LineFilter.Text
