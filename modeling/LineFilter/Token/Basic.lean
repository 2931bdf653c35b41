import LineFilter.Operator

/-!
# Tokens

What a script is made of. Number words, names and columns are kept as they are
spelled; a string also keeps its spelling, since it is printed that way.
-/

namespace LineFilter

/-- Punctuation. -/
inductive Mark
  | bang
  | openParen
  | closeParen
  | openBrace
  | closeBrace
  | openBracket
  | closeBracket
  | comma
  | colon
  | semicolon
deriving DecidableEq, Repr

def Mark.symbol : Mark → Char
  | .bang => '!'
  | .openParen => '('
  | .closeParen => ')'
  | .openBrace => '\x7b'
  | .closeBrace => '\x7d'
  | .openBracket => '['
  | .closeBracket => ']'
  | .comma => ','
  | .colon => ':'
  | .semicolon => ';'

inductive Token
  /-- A column with its sigil: `%0`, `%-1`, `%#`. -/
  | column (name : Text)
  /-- A command, a variable or a keyword. -/
  | identifier (name : Text)
  /-- A quoted text, as spelled and as decoded. -/
  | string (raw value : Text)
  /-- The pattern between two slashes. -/
  | regex (pattern : Text)
  /-- An integer, a decimal or a date, not yet told apart. -/
  | number (word : Text)
  | operator (op : Operator)
  | mark (m : Mark)
deriving DecidableEq, Repr

namespace Token

/-- How diagnostics show a token. -/
def describe : Token → Text
  | .column word | .identifier word | .number word => '\'' :: word ++ ['\'']
  | .string raw _ => raw
  | .regex pattern => '/' :: pattern ++ ['/']
  | .operator op => '\'' :: op.symbol ++ ['\'']
  | .mark m => ['\'', m.symbol, '\'']

end Token

end LineFilter
