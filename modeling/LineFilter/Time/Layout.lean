import LineFilter.Number.Digits
import LineFilter.Text.Blank
import LineFilter.Time.Zone

/-!
# Date layouts

A layout says which fields a written date has and in what order. What it has
no field for is filled in: the year or the day from the present moment, the
finer parts of the time with zero. The result is a wall time, which local or
universal clocks show.
-/

namespace LineFilter

/-- Fields written in digits. -/
inductive NumberField
  | year
  /-- Two digits for a year from 1970 to 2069. -/
  | shortYear
  | month
  | day
  | hour
  | minute
  | second
deriving DecidableEq, Repr

/-- A piece of a layout. -/
inductive LayoutItem
  | number (field : NumberField)
  | literal (c : Char)
  /-- White space, or none. -/
  | space
  /-- Three letters of a day of the week. -/
  | weekday
  /-- A day of the week, in full or in three letters. -/
  | fullWeekday
  | month
  | fullMonth
  /-- A point and three digits, or nothing. -/
  | milliseconds
  /-- Characters up to white space, which mean nothing. -/
  | zoneName
deriving DecidableEq, Repr

/-- The fields that have been read. -/
structure DateFields where
  year : Option Int
  shortYear : Option Nat
  month : Option Nat
  day : Option Nat
  weekday : Option Nat
  hour : Option Nat
  minute : Option Nat
  second : Option Nat
  nano : Option Nat
deriving DecidableEq, Repr

namespace DateFields

def none : DateFields :=
  ⟨.none, .none, .none, .none, .none, .none, .none, .none, .none⟩

/-- The year, in full or from its last two digits. -/
def fullYear? (f : DateFields) : Option Int :=
  f.year <|> f.shortYear.map fun n => if n < 70 then 2000 + (n : Int) else 1900 + (n : Int)

/-- The date, unless the calendar or the day of the week speaks against it. -/
def date? (f : DateFields) : Option Date := do
  let date : Date := ⟨← f.fullYear?, ← f.month, ← f.day⟩
  if date.isValid && f.weekday.all (· = date.weekday) then date else .none

/-- The wall time. Second 60 is a leap second, and a fraction needs a second. -/
def wall? (f : DateFields) : Option WallTime := do
  let date ← f.date?
  let hour ← f.hour
  let minute ← f.minute
  let nano ← match f.second, f.nano with
    | .none, some _ => .none
    | _, nano => some (nano.getD 0)
  let second := f.second.getD 0
  let leap := second = 60
  return ⟨date, hour * 3600 + minute * 60 + (if leap then 59 else second),
    nano + if leap then 1000000000 else 0⟩

end DateFields

namespace NumberField

/-- The most digits a field has without a sign. -/
def width : NumberField → Nat
  | .year => 4
  | _ => 2

/-- Whether a field may hold the number. -/
def admits : NumberField → Nat → Bool
  | .year, _ | .shortYear, _ => true
  | .month, n => 1 ≤ n && n ≤ 12
  | .day, n => 1 ≤ n && n ≤ 31
  | .hour, n => n ≤ 23
  | .minute, n => n ≤ 59
  | .second, n => n ≤ 60

def store (f : DateFields) (n : Nat) : NumberField → DateFields
  | .year => { f with year := some n }
  | .shortYear => { f with shortYear := some n }
  | .month => { f with month := some n }
  | .day => { f with day := some n }
  | .hour => { f with hour := some n }
  | .minute => { f with minute := some n }
  | .second => { f with second := some n }

/-- Reads at least one digit and at most `width`. -/
def digits (width : Nat) (text : Text) : Option (Nat × Text) :=
  let digits := (text.take width).takeWhile Text.isDigit
  (Digits.read? 10 digits).map fun n => (n, text.drop digits.length)

/-- Reads a field behind white space. A year behind a sign has any number of
digits. -/
def read (field : NumberField) (f : DateFields) (text : Text) : Option (DateFields × Text) :=
  match field, text.dropBlanks with
  | .year, '-' :: cs =>
    (digits cs.length cs).map fun (n, rest) => ({ f with year := some (-(n : Int)) }, rest)
  | .year, '+' :: cs =>
    (digits cs.length cs).map fun (n, rest) => (store f n .year, rest)
  | field, cs => do
    let (n, rest) ← digits field.width cs
    if field.admits n then some (store f n field, rest) else none

end NumberField

/-- The days of the week from Sunday. -/
def weekdayNames : List Text :=
  ["sunday".toList, "monday".toList, "tuesday".toList, "wednesday".toList, "thursday".toList,
    "friday".toList, "saturday".toList]

/-- The months from January. -/
def monthNames : List Text :=
  ["january".toList, "february".toList, "march".toList, "april".toList, "may".toList,
    "june".toList, "july".toList, "august".toList, "september".toList, "october".toList,
    "november".toList, "december".toList]

/-- What follows a name at the front of a text, in whatever case of ASCII. -/
def dropName (name text : Text) : Option Text :=
  if (text.take name.length).map Char.toLower = name then some (text.drop name.length) else none

/-- The place of a name in a list, known by its first three letters, and the
text after the name: after three letters, or after all of it if `full` allows
that and it is there. -/
def readName (names : List Text) (full : Bool) (text : Text) : Option (Nat × Text) :=
  names.zipIdx.findSome? fun (name, index) =>
    (dropName (name.take 3) text).map fun rest =>
      (index, if full then (dropName (name.drop 3) rest).getD rest else rest)

namespace LayoutItem

/-- Reads one piece of a layout. -/
def read (f : DateFields) (text : Text) : LayoutItem → Option (DateFields × Text)
  | .number field => field.read f text
  | .literal c =>
    match text with
    | d :: rest => if d = c then some (f, rest) else none
    | [] => none
  | .space => some (f, text.dropBlanks)
  | .weekday =>
    (readName weekdayNames false text).map fun (n, rest) => ({ f with weekday := some n }, rest)
  | .fullWeekday =>
    (readName weekdayNames true text).map fun (n, rest) => ({ f with weekday := some n }, rest)
  | .month =>
    (readName monthNames false text).map fun (n, rest) => ({ f with month := some (n + 1) }, rest)
  | .fullMonth =>
    (readName monthNames true text).map fun (n, rest) => ({ f with month := some (n + 1) }, rest)
  | .milliseconds =>
    match text with
    | '.' :: a :: b :: c :: rest =>
      (Digits.read? 10 [a, b, c]).map fun n => ({ f with nano := some (n * 1000000) }, rest)
    | '.' :: _ => none
    | _ => some (f, text)
  | .zoneName => some (f, text.dropWhile (!isBlank ·))

/-- Reads pieces in order, to the end of the text. -/
def readAll (f : DateFields) (text : Text) : List LayoutItem → Option DateFields
  | [] => if text = [] then some f else none
  | item :: items => do
    let (f, rest) ← item.read f text
    readAll f rest items

end LayoutItem

/-- The finest part of the time that a layout has a field for. -/
inductive Precision
  | day
  | hour
  | minute
  | second
deriving DecidableEq, Repr

/-- What a layout takes from the present moment. -/
inductive Assumed
  | nothing
  | year
  /-- The year, the month and the day. -/
  | date
deriving DecidableEq, Repr

structure Layout where
  items : List LayoutItem
  precision : Precision
  assumed : Assumed
  /-- Whether local clocks show the time, or those of universal time. -/
  isLocal : Bool
deriving DecidableEq, Repr

namespace Layout

/-- The fields with what the layout takes from the present date. -/
def fillDate (today : Date) (f : DateFields) : Assumed → DateFields
  | .nothing => f
  | .year => { f with year := some today.year }
  | .date =>
    { f with year := some today.year, month := some today.month, day := some today.day }

/-- The fields with zero for the parts of the time that the layout leaves out. -/
def fillTime (f : DateFields) : Precision → DateFields
  | .day => { f with hour := some 0, minute := some 0 }
  | .hour => { f with minute := some 0 }
  | .minute | .second => f

/-- The wall time that a text means. -/
def wall? (layout : Layout) (today : Date) (text : Text) : Option WallTime := do
  let f ← LayoutItem.readAll .none text layout.items
  (fillTime (fillDate today f layout.assumed) layout.precision).wall?

/-- The instant that a text means. -/
def read? (layout : Layout) (clock : Clock) (text : Text) : Option Instant := do
  let wall ← layout.wall? clock.today text
  if layout.isLocal then clock.zone.instant? wall else Instant.ofWall? 0 wall

/-- Reads a text by the first layout that takes it, after evening out its white
space. -/
def readFirst? (layouts : List Layout) (clock : Clock) (text : Text) : Option Instant :=
  layouts.findSome? (·.read? clock text.squeeze)

end Layout

end LineFilter
