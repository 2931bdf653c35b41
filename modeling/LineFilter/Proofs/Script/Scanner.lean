import Mathlib.Data.List.TakeWhile
import LineFilter.Token.Stream
import LineFilter.Proofs.Text.Gap

/-!
# Reading by position

A scanner keeps the whole script and moves a position over it, one character
at a time and whether there is a character or not. Its loops look at the
character at hand before they move. So the position stays within the script,
each call finds what a cursor finds that has the rest of the script, and where
a call fails the scanner stands somewhere in the text that does not read.
-/

namespace LineFilter

structure Scanner where
  script : Text
  position : Nat
  place : Position
deriving DecidableEq, Repr

namespace Scanner

/-- The scanner in front of a script. -/
def ofScript (script : Text) : Scanner := ⟨script, 0, .start⟩

def current? (s : Scanner) : Option Char := s.script[s.position]?

def peek? (s : Scanner) (offset : Nat) : Option Char := s.script[s.position + offset]?

def advance (s : Scanner) : Scanner where
  script := s.script
  position := s.position + 1
  place :=
    if s.current? = some '\n' then ⟨s.place.line + 1, 1⟩
    else ⟨s.place.line, s.place.column + 1⟩

/-- The text from the position on. -/
def rest (s : Scanner) : Text := s.script.drop s.position

/-- The cursor at the same place. -/
def cursor (s : Scanner) : Cursor := ⟨s.rest, s.place⟩

variable {s t u : Scanner} {c : Char} {cs passed : Text}

theorem current?_eq (s : Scanner) : s.current? = s.rest.head? := by
  rw [rest, List.head?_drop, current?]

theorem exists_rest_of_current? (h : s.current? = some c) : ∃ cs, s.rest = c :: cs := by
  rw [current?_eq] at h
  exact List.head?_eq_some_iff.mp h

theorem rest_of_current?_none (h : s.current? = none) : s.rest = [] := by
  rw [current?_eq] at h
  exact List.head?_eq_none_iff.mp h

theorem current?_of_rest (h : s.rest = c :: cs) : s.current? = some c := by
  rw [current?_eq, h, List.head?_cons]

theorem peek?_of_rest (h : s.rest = c :: cs) : s.peek? 1 = cs.head? := by
  rw [peek?, ← List.head?_drop, ← List.drop_drop, ← rest, h, List.drop_one, List.tail_cons]

theorem length_rest (s : Scanner) : s.rest.length = s.script.length - s.position :=
  List.length_drop

theorem rest_advance (h : s.rest = c :: cs) : s.advance.rest = cs := by
  rw [rest, advance, ← List.drop_drop, ← rest, h, List.drop_one, List.tail_cons]

-- ---------------------------------------------------------------------------
-- Moving over a text
-- ---------------------------------------------------------------------------

/-- The scanner has moved from `s` over a text to `t`. -/
structure Passes (s : Scanner) (passed : Text) (t : Scanner) : Prop where
  script : t.script = s.script
  position : t.position = s.position + passed.length
  rest : s.rest = passed ++ t.rest
  place : t.place = s.place.after passed

namespace Passes

theorem refl (s : Scanner) : Passes s [] s where
  script := rfl
  position := rfl
  rest := rfl
  place := rfl

theorem trans {more : Text} (hp : Passes s passed t) (hm : Passes t more u) :
    Passes s (passed ++ more) u where
  script := hm.script.trans hp.script
  position := by rw [hm.position, hp.position, List.length_append, Nat.add_assoc]
  rest := by rw [hp.rest, hm.rest, List.append_assoc]
  place := by rw [hm.place, hp.place, Position.after_append]

theorem step (h : s.rest = c :: cs) : Passes s [c] s.advance where
  script := rfl
  position := rfl
  rest := by rw [rest_advance h, h, List.singleton_append]
  place := by
    simp only [advance, current?_of_rest h, Option.some.injEq]
    rfl

theorem cons (h : s.rest = c :: cs) (hp : Passes s.advance passed t) : Passes s (c :: passed) t :=
  (step h).trans hp

theorem le (h : Passes s passed t) : s.position ≤ t.position := by
  rw [h.position]
  exact Nat.le_add_right _ _

/-- A text that was moved over is in the script. -/
theorem within (h : Passes s passed t) (hs : s.position ≤ s.script.length) :
    t.position ≤ t.script.length := by
  have hlength := congrArg List.length h.rest
  rw [List.length_append, length_rest] at hlength
  rw [h.position, h.script]
  omega

theorem shorter (h : Passes s (c :: passed) t) :
    t.script.length - t.position < s.script.length - s.position := by
  have hlength := congrArg List.length h.rest
  rw [List.length_append, length_rest, List.length_cons] at hlength
  rw [h.position, h.script, List.length_cons]
  omega

end Passes

theorem advance_shorter (h : s.current? = some c) :
    s.advance.script.length - s.advance.position < s.script.length - s.position :=
  (Passes.step (exists_rest_of_current? h).choose_spec).shorter

-- ---------------------------------------------------------------------------
-- Words and gaps
-- ---------------------------------------------------------------------------

/-- Moves on while a condition holds; with the text that was moved over. -/
def readWhile (p : Char → Bool) (s : Scanner) : Text × Scanner :=
  match _h : s.current? with
  | none => ([], s)
  | some c =>
    if p c then
      let (word, after) := s.advance.readWhile p
      (c :: word, after)
    else ([], s)
termination_by s.script.length - s.position
decreasing_by exact advance_shorter _h

theorem readWhile_passes (p : Char → Bool) (s : Scanner) :
    (s.readWhile p).1 = s.rest.takeWhile p ∧ Passes s (s.rest.takeWhile p) (s.readWhile p).2 := by
  fun_induction readWhile p s with
  | case1 s h =>
    rw [rest_of_current?_none h]
    exact ⟨rfl, .refl s⟩
  | case2 s c h hc word after heq ih =>
    obtain ⟨cs, hrest⟩ := exists_rest_of_current? h
    rw [heq, rest_advance hrest] at ih
    rw [hrest, List.takeWhile_cons_of_pos hc]
    exact ⟨congrArg (c :: ·) ih.1, .cons hrest ih.2⟩
  | case3 s c h hc =>
    obtain ⟨cs, hrest⟩ := exists_rest_of_current? h
    rw [hrest, List.takeWhile_cons_of_neg hc]
    exact ⟨rfl, .refl s⟩

/-- What is not moved over is what does not go on. -/
theorem rest_readWhile (p : Char → Bool) (s : Scanner) :
    (s.readWhile p).2.rest = s.rest.dropWhile p := by
  have hrest := (readWhile_passes p s).2.rest
  conv at hrest => lhs; rw [← List.takeWhile_append_dropWhile (p := p) (l := s.rest)]
  exact (List.append_cancel_left hrest).symm

theorem readWhile_shorter {p : Char → Bool} (h : s.current? = some c) (hc : p c) :
    (s.readWhile p).2.script.length - (s.readWhile p).2.position <
      s.script.length - s.position := by
  obtain ⟨cs, hrest⟩ := exists_rest_of_current? h
  have hpasses := (readWhile_passes p s).2
  rw [hrest, List.takeWhile_cons_of_pos hc] at hpasses
  exact hpasses.shorter

/-- Whether a comment goes on with this character. -/
def staysInLine (c : Char) : Bool := c ≠ '\n'

/-- Moves over white space and over comments, each up to the end of its line. -/
def skipGap (s : Scanner) : Scanner :=
  match _h : s.current? with
  | none => s
  | some c =>
    if isBlank c then s.advance.skipGap
    else if _hc : c = '#' then (s.readWhile staysInLine).2.skipGap
    else s
termination_by s.script.length - s.position
decreasing_by
  · exact advance_shorter _h
  · exact readWhile_shorter _h (by rw [_hc]; decide)

/-- A comment goes on up to the line feed that the gap goes on with, if there is one. -/
theorem splitGap_ofComment (cs : Text) :
    (Text.splitGap true cs).1 = cs.takeWhile staysInLine ++
      (Text.splitGap false (cs.dropWhile staysInLine)).1 := by
  have hbody : '\n' ∉ cs.takeWhile staysInLine := fun h =>
    absurd (List.mem_takeWhile_imp h) (by decide)
  have hsplit : cs.takeWhile staysInLine ++ cs.dropWhile staysInLine = cs :=
    List.takeWhile_append_dropWhile
  generalize cs.takeWhile staysInLine = body at hbody hsplit ⊢
  cases hrest : cs.dropWhile staysInLine with
  | nil =>
    rw [hrest, List.append_nil] at hsplit
    rw [← hsplit, Text.splitGap_comment hbody, Text.splitGap, List.append_nil]
  | cons d rest =>
    have hd : d = '\n' := by
      have hstop := List.head_dropWhile_not staysInLine (l := cs) (by simp [hrest])
      simpa [hrest, staysInLine] using hstop
    rw [hrest, hd] at hsplit
    rw [← hsplit, hd, Text.splitGap_comment_append hbody, Text.splitGap_blank (by decide)]

theorem skipGap_passes (s : Scanner) : Passes s (Text.splitGap false s.rest).1 s.skipGap := by
  fun_induction skipGap s with
  | case1 s h =>
    rw [rest_of_current?_none h]
    exact .refl s
  | case2 s c h hb ih =>
    obtain ⟨cs, hrest⟩ := exists_rest_of_current? h
    rw [rest_advance hrest] at ih
    rw [hrest, Text.splitGap_blank hb]
    exact .cons hrest ih
  | case3 s h _ ih =>
    -- The line feed of the comment is left to the gap that is skipped next.
    obtain ⟨cs, hrest⟩ := exists_rest_of_current? h
    have hsharp : staysInLine '#' := by decide
    have hcomment := (readWhile_passes staysInLine s).2
    rw [rest_readWhile, hrest, List.dropWhile_cons_of_pos hsharp] at ih
    rw [hrest, List.takeWhile_cons_of_pos hsharp] at hcomment
    rw [hrest, Text.splitGap_sharp, splitGap_ofComment]
    exact hcomment.trans ih
  | case4 s c h hb hc =>
    obtain ⟨cs, hrest⟩ := exists_rest_of_current? h
    rw [hrest, Text.splitGap_of_head (by simpa using hb) hc]
    exact .refl s

theorem cursor_skipGap (s : Scanner) : s.skipGap.cursor = s.cursor.skipGap := by
  have hpasses := s.skipGap_passes
  have hrest := hpasses.rest
  conv at hrest => lhs; rw [← Text.splitGap_append false s.rest]
  rw [cursor, hpasses.place, ← List.append_cancel_left hrest]
  rfl

-- ---------------------------------------------------------------------------
-- Tokens
-- ---------------------------------------------------------------------------

/-- Reads the index of a column, with the sign in front of it. -/
def readIndex (sign : Text) (s : Scanner) : Except LexFault Token × Scanner :=
  let (digits, s) := s.readWhile Text.isDigit
  if digits = [] then (.error .noColumnNumber, s)
  else (.ok (.column ('%' :: (sign ++ digits))), s)

/-- Reads a column, from its sigil on. -/
def readColumn (s : Scanner) : Except LexFault Token × Scanner :=
  let s := s.advance
  if s.current? = some '#' then (.ok (.column ['%', '#']), s.advance)
  else if s.current? = some '-' then s.advance.readIndex ['-']
  else s.readIndex []

/-- Reads a string on, with its spelling and its text so far. An escape takes
two characters, and the second is looked at from behind the backslash. -/
def readString (quote : Char) (raw value : Text) (s : Scanner) :
    Except LexFault Token × Scanner :=
  match _h : s.current? with
  | none => (.error .unterminatedString, s)
  | some c =>
    if c = quote then (.ok (.string (raw ++ [c]) value), s.advance)
    else if c = '\\' then
      match _h' : s.advance.current? with
      | none => (.error .unterminatedString, s.advance)
      | some e =>
        match Token.unescape e with
        | none => (.error (.badEscape e), s.advance)
        | some d => s.advance.advance.readString quote (raw ++ [c, e]) (value ++ [d])
    else s.advance.readString quote (raw ++ [c]) (value ++ [c])
termination_by s.script.length - s.position
decreasing_by
  · exact Nat.lt_trans (advance_shorter _h') (advance_shorter _h)
  · exact advance_shorter _h

/-- Reads a pattern on, with the pattern so far. -/
def readRegex (pattern : Text) (s : Scanner) : Except LexFault Token × Scanner :=
  match _h : s.current? with
  | none => (.error .unterminatedRegex, s)
  | some c =>
    if c = '/' then (.ok (.regex pattern), s.advance)
    else if c = '\\' ∧ s.peek? 1 = some '/' then s.advance.advance.readRegex (pattern ++ ['/'])
    else if c = '\\' then
      match _h' : s.advance.current? with
      | none => s.advance.readRegex (pattern ++ [c])
      | some d => s.advance.advance.readRegex (pattern ++ [c, d])
    else s.advance.readRegex (pattern ++ [c])
termination_by s.script.length - s.position
decreasing_by
  · have := advance_shorter _h
    simp only [advance] at this ⊢
    omega
  · exact advance_shorter _h
  · exact Nat.lt_trans (advance_shorter _h') (advance_shorter _h)
  · exact advance_shorter _h

/-- Reads a number word on, with the word so far. -/
def readNumber (word : Text) (s : Scanner) : Text × Scanner :=
  match _h : s.current? with
  | none => (word, s)
  | some c =>
    let nextIsDigit := (s.peek? 1).any Text.isDigit
    if c.isAlphanum || c = '_' || c = '.' || (c = '-' && nextIsDigit) ||
        (c = ':' && nextIsDigit && word.contains 'T') then
      s.advance.readNumber (word ++ [c])
    else (word, s)
termination_by s.script.length - s.position
decreasing_by exact advance_shorter _h

/-- A token of one character. -/
def single (s : Scanner) (mark : Mark) : Except LexFault Token × Scanner :=
  (.ok (.mark mark), s.advance)

/-- One token, or another when `=` follows. -/
def withEquals (s : Scanner) (alone joined : Token) : Except LexFault Token × Scanner :=
  if s.peek? 1 = some '=' then (.ok joined, s.advance.advance) else (.ok alone, s.advance)

/-- Reads `==`. -/
def readEquals (s : Scanner) : Except LexFault Token × Scanner :=
  if s.peek? 1 = some '=' then (.ok (.operator .equal), s.advance.advance)
  else (.error .loneEquals, s)

/-- Reads a word that begins with `c`: a number, a name, or nothing. -/
def readWord (c : Char) (s : Scanner) : Except LexFault Token × Scanner :=
  if c = '-' ∧ (s.peek? 1).any Text.isDigit then
    let (word, s) := s.advance.readNumber ['-']
    (.ok (.number word), s)
  else if Text.isDigit c then
    let (word, s) := s.readNumber []
    (.ok (.number word), s)
  else if isLetter c || c = '_' then
    let (name, s) := s.readWhile Token.continuesName
    (.ok (.identifier name), s)
  else (.error (.strayCharacter c), s)

/-- Reads the token that begins with `c`. -/
def readToken (c : Char) (s : Scanner) : Except LexFault Token × Scanner :=
  match c with
  | '%' => s.readColumn
  | '"' => s.advance.readString '"' ['"'] []
  | '\'' => s.advance.readString '\'' ['\''] []
  | '/' => s.advance.readRegex []
  | '<' => s.withEquals (.operator .less) (.operator .lessEqual)
  | '>' => s.withEquals (.operator .greater) (.operator .greaterEqual)
  | '!' => s.withEquals (.mark .bang) (.operator .notEqual)
  | '=' => s.readEquals
  | '(' => s.single .openParen
  | ')' => s.single .closeParen
  | '\x7b' => s.single .openBrace
  | '\x7d' => s.single .closeBrace
  | '[' => s.single .openBracket
  | ']' => s.single .closeBracket
  | ',' => s.single .comma
  | ':' => s.single .colon
  | ';' => s.single .semicolon
  | c => s.readWord c

-- ---------------------------------------------------------------------------
-- Calls
-- ---------------------------------------------------------------------------

/-- What a call finds: a token, the end of the script or an error, with the place
where that begins and the scanner behind it. -/
structure Reading where
  found : Except LexError (Option Token)
  place : Position
  after : Scanner

/-- Reads one token. -/
def next (s : Scanner) : Reading :=
  let here := s.skipGap
  match here.current? with
  | none => ⟨.ok none, here.place, here⟩
  | some c =>
    match here.readToken c with
    | (.error fault, after) => ⟨.error ⟨fault, here.place⟩, here.place, after⟩
    | (.ok token, after) => ⟨.ok (some token), here.place, after⟩

/-- A reading as a step of a cursor. -/
def Reading.step (reading : Reading) : Step :=
  match reading.found with
  | .error error => .fault error
  | .ok none => .finish reading.place
  | .ok (some token) => .read token reading.place reading.after.cursor

end Scanner

end LineFilter
