import LineFilter.Text.Basic
import LineFilter.Text.CodeRanges

/-!
# White space

The Unicode property White_Space, and texts with their white space evened out.
-/

namespace LineFilter

/-- The code points with the property White_Space. -/
def whiteSpace : CodeRanges :=
  [(0x09, 0x0d), (0x20, 0x20), (0x85, 0x85), (0xa0, 0xa0), (0x1680, 0x1680), (0x2000, 0x200a),
    (0x2028, 0x2029), (0x202f, 0x202f), (0x205f, 0x205f), (0x3000, 0x3000)]

/-- Whether a character is white space. -/
def isBlank (c : Char) : Bool := whiteSpace.has c.toNat

namespace Text

/-- The text from its first character that is not white space. -/
def dropBlanks (text : Text) : Text := text.dropWhile isBlank

/-- The runs of a text that hold no white space. -/
def words (text : Text) : List Text := runs isBlank text

/-- A text with one space between its words and none at either end. -/
def squeeze (text : Text) : Text := join [' '] text.words

end Text

end LineFilter
