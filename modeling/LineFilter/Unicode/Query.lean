import LineFilter.Text.Blank
import LineFilter.Unicode.AgeTable
import LineFilter.Unicode.BreakTable
import LineFilter.Unicode.CategoryTable
import LineFilter.Unicode.CharSet
import LineFilter.Unicode.PropertyTable
import LineFilter.Unicode.ScriptExtensionTable
import LineFilter.Unicode.ScriptTable

/-!
# Sets of characters by name

The sets that version 15.0 of the Unicode standard names, for use in patterns.
Names are compared loosely: case, blanks, `-`, `_` and a leading `is` do not matter.
-/

namespace LineFilter.Unicode

/-- A name as it is compared. -/
def looseName (name : Text) : Text :=
  let (isPrefixed, body) := match name with
    | a :: b :: cs => if [a, b].map Char.toLower = ['i', 's'] then (true, cs) else (false, name)
    | cs => (false, cs)
  let kept := body.filter fun c => c.toNat < 128 && c ≠ ' ' && c ≠ '_' && c ≠ '-'
  let loose := kept.map Char.toLower
  if isPrefixed && loose = ['c'] then ['i', 's', 'c'] else loose

/-- The entry of a table that has the name. -/
def lookup? {α : Type} (table : List (String × α)) (name : Text) : Option α :=
  (table.find? fun entry => name ∈ Text.runs (· = ' ') entry.1.toList).map (·.2)

/-- The set that a table of packed sets has under the name. -/
def packed? (table : List (String × String)) (name : Text) : Option CharSet :=
  (lookup? table name).map fun packed => .ranges (.unpack packed)

/-- The characters of a general category, which has to be a basic one. -/
def category? (name : Text) : Option CharSet := packed? categories name

/-- The characters of basic categories. -/
def categoriesNamed (names : List String) : CharSet :=
  names.foldl (fun set name => .union set ((category? name.toList).getD .empty)) .empty

/-- The characters of a general category or of a group of them. -/
def generalCategory? (name : Text) : Option CharSet :=
  if name = "any".toList then some (.complement .empty)
  else if name = "ascii".toList then some (.ranges [(0, 127)])
  else if name = "assigned".toList then (category? "cn".toList).map .complement
  else category? name <|> (lookup? categoryGroups name).map categoriesNamed

/-- The characters that a version of the standard or one before it added. -/
def age? (name : Text) : Option CharSet :=
  (ages.findIdx? fun entry => name ∈ Text.runs (· = ' ') entry.1.toList).map fun last =>
    (ages.take (last + 1)).foldl
      (fun set entry => .union set (.ranges (.unpack entry.2))) .empty

/-- The set with a name: a property of two values, a category or a script. -/
def named? (name : Text) : Option CharSet :=
  let name := looseName name
  packed? properties name <|> generalCategory? name <|> packed? scripts name

/-- The characters for which a property has a value. -/
def valued? (property value : Text) : Option CharSet :=
  let property := looseName property
  let value := looseName value
  let isNamed (names : List String) : Bool := names.any (·.toList = property)
  if isNamed ["gc", "generalcategory"] then generalCategory? value
  else if isNamed ["sc", "script"] then packed? scripts value
  else if isNamed ["scx", "scriptextensions"] then packed? scriptExtensions value
  else if isNamed ["age"] then age? value
  else if isNamed ["gcb", "graphemeclusterbreak"] then packed? graphemeBreaks value
  else if isNamed ["wb", "wordbreak"] then packed? wordBreaks value
  else if isNamed ["sb", "sentencebreak"] then packed? sentenceBreaks value
  else none

/-- Decimal digits. -/
def digits : CharSet := categoriesNamed ["nd"]

/-- The characters of words: letters, marks, decimal digits, connectors and joiners. -/
def wordCharacters : CharSet :=
  .union ((packed? properties "alphabetic".toList).getD .empty)
    (.union (categoriesNamed ["mn", "mc", "me", "nd", "pc"]) (.ranges [(0x200c, 0x200d)]))

/-- White space. -/
def blanks : CharSet := .ranges whiteSpace

end LineFilter.Unicode
