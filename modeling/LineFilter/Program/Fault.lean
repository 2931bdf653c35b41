import LineFilter.Expr.Basic
import LineFilter.Token.Basic
import LineFilter.Token.Fault

/-!
# Scripts that are no program

A script fails where it first leaves the grammar, where a literal means
nothing, or where two comparisons do not make a range. A text that is no token
is reported before anything that comes after it.
-/

namespace LineFilter

/-- What the grammar asks for and does not find; `none` is the end. -/
inductive SyntaxFault
  | expectedMark (mark : Mark) (found : Option Token)
  | expectedValue (found : Option Token)
  | expectedCommand (found : Option Token)
  /-- An operand that is neither compared nor a pattern. -/
  | expectedComparison (operand : Expr)
  | badSliceBound (word : Text)
deriving DecidableEq

inductive ScriptError
  | lexical (error : LexError)
  | grammar (fault : SyntaxFault) (place : Position)
  | literal (error : ValueError) (place : Position)
  | range (error : RangeError) (place : Position)
deriving DecidableEq

namespace SyntaxFault

def describeFound : Option Token → Text
  | some token => token.describe
  | none => "end of input".toList

def message : SyntaxFault → Text
  | .expectedMark mark found =>
    "expected ".toList ++ (Token.mark mark).describe ++ ", got ".toList ++ describeFound found
  | .expectedValue found => "expected a value, got ".toList ++ describeFound found
  | .expectedCommand found => "expected a command, got ".toList ++ describeFound found
  | .expectedComparison operand => "expected a comparison after ".toList ++ operand.describe
  | .badSliceBound word =>
    "slice bound '".toList ++ word ++ "' is not an integer".toList

end SyntaxFault

namespace ScriptError

def place : ScriptError → Position
  | .lexical e => e.place
  | .grammar _ place | .literal _ place | .range _ place => place

/-- What went wrong, without the place. -/
def reason : ScriptError → Text
  | .lexical e => e.fault.message
  | .grammar fault _ => fault.message
  | .literal e _ => e.message
  | .range e _ => e.message

def message (e : ScriptError) : Text := e.reason ++ " at ".toList ++ e.place.describe

end ScriptError

end LineFilter
