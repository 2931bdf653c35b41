import LineFilter.Text.Letter
import LineFilter.Token.Basic
import LineFilter.Token.Fault

/-!
# Reading one token

`Token.scan` reads the token at the front of a text and says how it was
spelled and what follows. A spelling and its rest are the text that was read,
and a spelling is never empty.
-/

namespace LineFilter

/-- A token, the text that spells it, and the text after it. -/
structure Scanned where
  token : Token
  spelling : Text
  rest : Text
deriving DecidableEq, Repr

namespace Token

/-- Whether a number word may begin here: with a digit, or with `-` and a digit. -/
def beginsNumber : Text → Bool
  | '-' :: d :: _ => Text.isDigit d
  | d :: _ => Text.isDigit d
  | [] => false

/-- Whether a number word goes on with this character. A `-` is part of it
when a digit follows, and so is a `:` in a word that has a `T`. -/
def continuesNumber (dated : Bool) (c : Char) (cs : Text) : Bool :=
  c.isAlphanum || c = '_' || c = '.' ||
    ((c = '-' || (c = ':' && dated)) && (cs.head?.any Text.isDigit))

/-- The rest of a number word and what follows it; `dated` tells whether the
word has a `T` so far. -/
def splitNumber (dated : Bool) : Text → Text × Text
  | [] => ([], [])
  | c :: cs =>
    if continuesNumber dated c cs then
      let (word, rest) := splitNumber (dated || c = 'T') cs
      (c :: word, rest)
    else ([], c :: cs)

theorem splitNumber_append (dated : Bool) (cs : Text) :
    (splitNumber dated cs).1 ++ (splitNumber dated cs).2 = cs := by
  induction cs generalizing dated with
  | nil => rfl
  | cons c cs ih =>
    simp only [splitNumber]
    split
    · simp [ih]
    · rfl

/-- Whether a name goes on with this character. -/
def continuesName (c : Char) : Bool := isAlphanumeric c || c = '_'

/-- The character that an escape stands for. -/
def unescape : Char → Option Char
  | 'n' => some '\n'
  | 't' => some '\t'
  | 'r' => some '\r'
  | '"' => some '"'
  | '\'' => some '\''
  | '\\' => some '\\'
  | _ => none

private theorem exists_of_map_eq_ok {ε α β : Type} {f : α → β} {x : Except ε α} {b : β}
    (h : x.map f = .ok b) : ∃ a, x = .ok a ∧ f a = b := by
  cases x with
  | error => cases h
  | ok a => exact ⟨a, rfl, Except.ok.inj h⟩

/-- Reads a string from after its opening quote: the decoded text, the
spelling with the closing quote, and what follows. -/
def stringBody (quote : Char) : Text → Except LexFault (Text × Text × Text)
  | [] => .error .unterminatedString
  | c :: cs =>
    if c = quote then .ok ([], [c], cs)
    else if c = '\\' then
      match cs with
      | [] => .error .unterminatedString
      | e :: cs =>
        match unescape e with
        | none => .error (.badEscape e)
        | some d =>
          (stringBody quote cs).map fun (value, spelling, rest) =>
            (d :: value, c :: e :: spelling, rest)
    else
      (stringBody quote cs).map fun (value, spelling, rest) => (c :: value, c :: spelling, rest)

theorem stringBody_append {quote : Char} {cs value spelling rest : Text}
    (h : stringBody quote cs = .ok (value, spelling, rest)) : spelling ++ rest = cs := by
  fun_induction stringBody quote cs generalizing value spelling with
  | case1 | case3 | case4 => cases h
  | case2 => cases h; rfl
  | case5 | case6 =>
    rename_i ih
    obtain ⟨⟨v, w, r⟩, hb, he⟩ := exists_of_map_eq_ok h
    cases he
    simp [ih hb]

/-- Reads a pattern from after its opening slash: the pattern, the spelling
with the closing slash, and what follows. An escaped slash stands for a slash;
any other escape is the pattern's own. -/
def regexBody : Text → Option (Text × Text × Text)
  | [] => none
  | '/' :: cs => some ([], ['/'], cs)
  | '\\' :: '/' :: cs =>
    (regexBody cs).map fun (pattern, spelling, rest) =>
      ('/' :: pattern, '\\' :: '/' :: spelling, rest)
  | '\\' :: c :: cs =>
    (regexBody cs).map fun (pattern, spelling, rest) =>
      ('\\' :: c :: pattern, '\\' :: c :: spelling, rest)
  | c :: cs =>
    (regexBody cs).map fun (pattern, spelling, rest) => (c :: pattern, c :: spelling, rest)

theorem regexBody_append {cs pattern spelling rest : Text}
    (h : regexBody cs = some (pattern, spelling, rest)) : spelling ++ rest = cs := by
  fun_induction regexBody cs generalizing pattern spelling with
  | case1 => cases h
  | case2 => cases h; rfl
  | case3 cs ih | case4 c cs _ ih | case5 c cs _ _ _ ih =>
    obtain ⟨⟨p, w, r⟩, hb, he⟩ := Option.map_eq_some_iff.mp h
    obtain ⟨-, rfl, rfl⟩ := he
    simp [ih hb]

/-- Reads a column from after its sigil. -/
def columnBody : Text → Option (Text × Text)
  | '#' :: cs => some (['#'], cs)
  | cs =>
    let (sign, cs) := match cs with
      | '-' :: cs => (['-'], cs)
      | cs => ([], cs)
    match cs.takeWhile Text.isDigit with
    | [] => none
    | digits => some (sign ++ digits, cs.dropWhile Text.isDigit)

theorem columnBody_append {cs name rest : Text} (h : columnBody cs = some (name, rest)) :
    name ++ rest = cs := by
  unfold columnBody at h
  split at h
  · cases h; rfl
  · split at h
    rename_i sign tail hs
    have hcs : sign ++ tail = cs := by
      split at hs <;> cases hs <;> rfl
    split at h
    · cases h
    · cases h
      rw [List.append_assoc, List.takeWhile_append_dropWhile, hcs]

/-- Reads the string that begins with `quote`. -/
def scanString (quote : Char) (cs : Text) : Except LexFault Scanned :=
  (stringBody quote cs).map fun (value, spelling, rest) =>
    ⟨.string (quote :: spelling) value, quote :: spelling, rest⟩

/-- Reads the pattern that begins with `slash`. -/
def scanRegex (slash : Char) (cs : Text) : Except LexFault Scanned :=
  match regexBody cs with
  | none => .error .unterminatedRegex
  | some (pattern, spelling, rest) => .ok ⟨.regex pattern, slash :: spelling, rest⟩

/-- Reads the column that begins with `sigil`. -/
def scanColumn (sigil : Char) (cs : Text) : Except LexFault Scanned :=
  match columnBody cs with
  | none => .error .noColumnNumber
  | some (name, rest) => .ok ⟨.column (sigil :: name), sigil :: name, rest⟩

/-- A token of one character. -/
def single (mark : Mark) (c : Char) (rest : Text) : Scanned := ⟨.mark mark, [c], rest⟩

/-- One token after the character `c`, or another when `=` follows it. -/
def withEquals (alone joined : Token) (c : Char) : Text → Scanned
  | '=' :: rest => ⟨joined, [c, '='], rest⟩
  | rest => ⟨alone, [c], rest⟩

/-- Reads the word that begins with `c`: a number, a name, or nothing. -/
def scanWord (c : Char) (cs : Text) : Except LexFault Scanned :=
  if beginsNumber (c :: cs) then
    let (word, rest) := splitNumber false cs
    .ok ⟨.number (c :: word), c :: word, rest⟩
  else if isLetter c || c = '_' then
    let name := c :: cs.takeWhile continuesName
    .ok ⟨.identifier name, name, cs.dropWhile continuesName⟩
  else .error (.strayCharacter c)

/-- Reads `==`. -/
def scanEquals (c : Char) : Text → Except LexFault Scanned
  | '=' :: rest => .ok ⟨.operator .equal, [c, '='], rest⟩
  | _ => .error .loneEquals

/-- Reads the token that begins with `c`. -/
def scan (c : Char) (cs : Text) : Except LexFault Scanned :=
  match c with
  | '%' => scanColumn c cs
  | '"' => scanString c cs
  | '\'' => scanString c cs
  | '/' => scanRegex c cs
  | '<' => .ok (withEquals (.operator .less) (.operator .lessEqual) c cs)
  | '>' => .ok (withEquals (.operator .greater) (.operator .greaterEqual) c cs)
  | '!' => .ok (withEquals (.mark .bang) (.operator .notEqual) c cs)
  | '=' => scanEquals c cs
  | '(' => .ok (single .openParen c cs)
  | ')' => .ok (single .closeParen c cs)
  | '\x7b' => .ok (single .openBrace c cs)
  | '\x7d' => .ok (single .closeBrace c cs)
  | '[' => .ok (single .openBracket c cs)
  | ']' => .ok (single .closeBracket c cs)
  | ',' => .ok (single .comma c cs)
  | ':' => .ok (single .colon c cs)
  | ';' => .ok (single .semicolon c cs)
  | c => scanWord c cs

/-- A scan has read `c :: cs`: its spelling begins with `c`, and nothing is lost. -/
def Covers (c : Char) (cs : Text) (s : Scanned) : Prop :=
  ∃ w, s.spelling = c :: w ∧ w ++ s.rest = cs

theorem scanString_covers {c : Char} {cs : Text} {s : Scanned} (h : scanString c cs = .ok s) :
    Covers c cs s := by
  obtain ⟨⟨v, w, r⟩, hb, rfl⟩ := exists_of_map_eq_ok h
  exact ⟨w, rfl, stringBody_append hb⟩

theorem scanRegex_covers {c : Char} {cs : Text} {s : Scanned} (h : scanRegex c cs = .ok s) :
    Covers c cs s := by
  unfold scanRegex at h
  split at h
  · cases h
  · rename_i hb
    cases h
    exact ⟨_, rfl, regexBody_append hb⟩

theorem scanColumn_covers {c : Char} {cs : Text} {s : Scanned} (h : scanColumn c cs = .ok s) :
    Covers c cs s := by
  unfold scanColumn at h
  split at h
  · cases h
  · rename_i hb
    cases h
    exact ⟨_, rfl, columnBody_append hb⟩

theorem withEquals_covers (alone joined : Token) (c : Char) (cs : Text) :
    Covers c cs (withEquals alone joined c cs) := by
  unfold withEquals
  split
  · exact ⟨_, rfl, rfl⟩
  · exact ⟨_, rfl, rfl⟩

theorem scanEquals_covers {c : Char} {cs : Text} {s : Scanned} (h : scanEquals c cs = .ok s) :
    Covers c cs s := by
  unfold scanEquals at h
  split at h
  · cases h; exact ⟨_, rfl, rfl⟩
  · cases h

theorem scanWord_covers {c : Char} {cs : Text} {s : Scanned} (h : scanWord c cs = .ok s) :
    Covers c cs s := by
  unfold scanWord at h
  split at h
  · cases h
    exact ⟨_, rfl, splitNumber_append false cs⟩
  · split at h
    · cases h
      exact ⟨_, rfl, List.takeWhile_append_dropWhile⟩
    · cases h

theorem scan_covers {c : Char} {cs : Text} {s : Scanned} (h : scan c cs = .ok s) :
    Covers c cs s := by
  unfold scan at h
  split at h
  case h_1 => exact scanColumn_covers h
  case h_2 => exact scanString_covers h
  case h_3 => exact scanString_covers h
  case h_4 => exact scanRegex_covers h
  case h_8 => exact scanEquals_covers h
  case h_18 => exact scanWord_covers h
  case h_5 | h_6 | h_7 => cases h; exact withEquals_covers _ _ _ _
  all_goals cases h; exact ⟨[], rfl, rfl⟩

theorem length_rest_lt_of_scan {c : Char} {cs : Text} {s : Scanned} (h : scan c cs = .ok s) :
    s.rest.length < (c :: cs).length := by
  obtain ⟨w, -, rfl⟩ := scan_covers h
  simp only [List.length_cons, List.length_append]
  omega

end Token

end LineFilter
