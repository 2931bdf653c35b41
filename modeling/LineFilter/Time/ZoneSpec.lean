import LineFilter.Number.Digits
import LineFilter.Time.ZoneRule

/-!
# Zones written as rules

A zone is written as a name and what has to be added to local time to get
universal time, and, if it has summer time, a second name with its own amount
(an hour less if left out) and the two yearly changes: `EST5EDT,M3.2.0,M11.1.0`.
A change is `M` with month, week and weekday, and a time of day, 02:00 if left
out. Offsets have to be less than a day.
-/

namespace LineFilter.Zone

/-- Drops a character that has to come next. -/
def expect (c : Char) : Text → Option Text
  | d :: cs => if d = c then some cs else none
  | [] => none

/-- Drops the name of a zone: letters, or anything between angle brackets. -/
def dropName : Text → Option Text
  | '<' :: cs => expect '>' (cs.dropWhile (· ≠ '>'))
  | c :: cs => if c.isAlpha then some (cs.dropWhile Char.isAlpha) else none
  | [] => none

/-- A number and what follows it. -/
def splitNumber (text : Text) : Option (Nat × Text) :=
  (Digits.read? 10 (text.takeWhile Text.isDigit)).map fun n => (n, text.dropWhile Text.isDigit)

/-- A number behind a colon, if there is one, and what follows. -/
def splitPart : Text → Option (Nat × Text)
  | ':' :: cs => splitNumber cs
  | cs => some (0, cs)

/-- Hours, and minutes and seconds behind colons, as seconds. -/
def splitTime (text : Text) : Option (Int × Text) := do
  let (negative, text) := match text with
    | '-' :: cs => (true, cs)
    | '+' :: cs => (false, cs)
    | cs => (false, cs)
  let (hours, text) ← splitNumber text
  let (minutes, text) ← splitPart text
  let (seconds, text) ← splitPart text
  let total : Int := hours * 3600 + minutes * 60 + seconds
  return (if negative then -total else total, text)

/-- A yearly change and what follows it. -/
def splitChange (text : Text) : Option (ZoneChange × Text) := do
  let text ← expect 'M' text
  let (month, text) ← splitNumber text
  let text ← expect '.' text
  let (week, text) ← splitNumber text
  let text ← expect '.' text
  let (weekday, text) ← splitNumber text
  match text with
  | '/' :: text =>
    let (second, text) ← splitTime text
    return (⟨month, week, weekday, second⟩, text)
  | text => return (⟨month, week, weekday, 7200⟩, text)

/-- Reads a rule. -/
def readRule? (text : Text) : Option ZoneRule := do
  let text ← dropName text
  let (west, text) ← splitTime text
  if text = [] then return .fixed (-west)
  let text ← dropName text
  let (summerWest, text) ← match text with
    | ',' :: _ => some (west - 3600, text)
    | _ => splitTime text
  let text ← expect ',' text
  let (start, text) ← splitChange text
  let text ← expect ',' text
  let (finish, text) ← splitChange text
  if text = [] then return .yearly (-west) (-summerWest) start finish
  none

/-- Reads a zone. -/
def read? (text : Text) : Option Zone := do
  let rule ← readRule? text
  if h : rule.WithinDay then return rule.zone h
  none

end LineFilter.Zone
