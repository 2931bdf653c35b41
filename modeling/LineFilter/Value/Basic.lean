import LineFilter.Number.DecimalLiteral
import LineFilter.Pattern.Basic
import LineFilter.Text.Quoted
import LineFilter.Time.Keyword
import LineFilter.Time.LayoutTable

/-!
# Values

A literal keeps the text that it was written as beside what it means. Text from
the input has no type of its own; it takes the type of what it is compared
with. References and keywords stand for other values.
-/

namespace LineFilter

inductive Value
  /-- A quoted text, as written and as meant. -/
  | string (raw text : Text)
  | regexp (pattern : Pattern)
  | integer (raw : Text) (value : Int)
  | decimal (raw : Text) (value : Decimal)
  | instant (raw : Text) (value : Instant)
  /-- A column with its sigil, or the name of a variable. -/
  | variable (name : Text)
  | keyword (keyword : Keyword)
  /-- Text without a type. -/
  | untyped (text : Text)
deriving DecidableEq

/-- Literals that mean nothing. -/
inductive ValueError
  | integer (raw : Text)
  | decimal (raw : Text) (cause : DecimalError)
  | instant (raw : Text)
  | regexp (source : Text)
deriving DecidableEq, Repr

namespace ValueError

/-- What went wrong; why a pattern does not read is left out. -/
def message : ValueError → Text
  | .integer raw => raw.quote ++ " is not a valid 64-bit integer".toList
  | .decimal raw cause => raw.quote ++ " is not a valid decimal: ".toList ++ cause.message
  | .instant raw => "unable to convert ".toList ++ raw.quote ++ " to a date".toList
  | .regexp source =>
    "could not parse regular expression ".toList ++ source.quote ++ ": <regex error>".toList

end ValueError

namespace Value

def ofInteger (raw : Text) : Except ValueError Value :=
  match IntegerLiteral.read? raw with
  | some n => .ok (.integer raw n)
  | none => .error (.integer raw)

def ofDecimal (raw : Text) : Except ValueError Value :=
  match DecimalLiteral.read raw with
  | .ok d => .ok (.decimal raw d)
  | .error cause => .error (.decimal raw cause)

def ofDate (clock : Clock) (raw : Text) : Except ValueError Value :=
  match Layout.readFirst? Layout.literals clock raw with
  | some i => .ok (.instant raw i)
  | none => .error (.instant raw)

def ofPattern (source : Text) : Except ValueError Value :=
  match Pattern.ofSource? source with
  | some p => .ok (.regexp p)
  | none => .error (.regexp source)

/-- What stands between two quotation marks. -/
def between (quote : Char) : Text → Option Text
  | [] => none
  | c :: cs => if c = quote && cs.getLast? = some quote then some cs.dropLast else none

/-- A text without its quotation marks, if it has the same ones at both ends. -/
def ofQuoted (raw : Text) : Value :=
  .string raw (((between '"' raw) <|> (between '\'' raw)).getD raw)

/-- Column 0, the whole line. -/
def wholeLine : Value := .variable "%0".toList

/-- What a reference to nothing means. -/
def empty : Value := .untyped []

/-- The text that a value was written as. -/
def raw : Value → Text
  | .string raw _ | .integer raw _ | .decimal raw _ | .instant raw _ => raw
  | .regexp p => p.source
  | .variable name => name
  | .keyword k => k.name
  | .untyped text => text

/-- The text that a value prints. -/
def text : Value → Text
  | .string _ text | .untyped text => text
  | .integer _ n => Text.ofInt n
  | .decimal _ d => d.text
  | .instant _ i => i.text
  | .regexp p => p.source
  | .variable name => name
  | .keyword k => k.name

/-- A value as a script shows it. -/
def describe : Value → Text
  | .regexp p => '/' :: p.source ++ ['/']
  | v => v.raw

/-- The printed values with a blank between neighbours. -/
def joined (values : List Value) : Text := Text.join [' '] (values.map text)

end Value

end LineFilter
