import LineFilter.Program.Fault
import LineFilter.Token.Stream

/-!
# Expressions in a script

An operand is a column, a variable or a keyword, each with an optional slice,
or a literal. A selection is a comparison of operands or a range, with the
line for a missing left side, or a pattern; `!` and parentheses go around a
selection. A parameter is an operand or a comparison.

Each reader returns what it read and the rest of the stream. A token counts as
read only if the next one reads too, so that a text that is no token is
reported before what precedes it is given a meaning.
-/

namespace LineFilter

theorem bind_eq_ok {ε α β : Type} {x : Except ε α} {f : α → Except ε β} {b : β} :
    x >>= f = .ok b ↔ ∃ a, x = .ok a ∧ f a = .ok b := by
  cases x <;> simp [bind, Except.bind]

theorem bind_eq_error {ε α β : Type} {x : Except ε α} {f : α → Except ε β} {e : ε} :
    x >>= f = .error e ↔ x = .error e ∨ ∃ a, x = .ok a ∧ f a = .error e := by
  cases x <;> simp [bind, Except.bind]

theorem pure_eq_ok {ε α : Type} {a b : α} : (pure a : Except ε α) = .ok b ↔ a = b := by
  simp [pure, Except.pure]

namespace TokenStream

/-- The stream, unless it begins with a text that is no token. -/
def ready : TokenStream → Except ScriptError TokenStream
  | .fault error => .error (.lexical error)
  | stream => .ok stream

/-- The error at a stream that does not go on as it should. -/
def refuse (stream : TokenStream) (fault : Option Token → SyntaxFault) : ScriptError :=
  match stream with
  | .fault error => .lexical error
  | stream => .grammar (fault stream.head?) stream.place

/-- The stream behind a mark that has to come next. -/
def expect (mark : Mark) (stream : TokenStream) : Except ScriptError TokenStream :=
  match stream with
  | .cons token _ rest =>
    if token = .mark mark then rest.ready else .error (stream.refuse (.expectedMark mark))
  | stream => .error (stream.refuse (.expectedMark mark))

theorem ready_eq_ok {stream rest : TokenStream} (h : stream.ready = .ok rest) :
    rest = stream := by
  cases stream <;> simp_all [ready]

theorem length_lt_of_expect {mark : Mark} {stream rest : TokenStream}
    (h : stream.expect mark = .ok rest) : rest.length < stream.length := by
  cases stream with
  | cons token place next =>
    simp only [expect] at h
    split at h
    · simp [ready_eq_ok h, length]
    · cases h
  | _ => cases h

end TokenStream

namespace Value

/-- What a bare name means. -/
def ofName (name : Text) : Value :=
  match Keyword.ofName? name with
  | some k => .keyword k
  | none => .variable name

/-- Whether a word begins with a zero and the letter of a base. -/
def namesBase : Text → Bool
  | '0' :: c :: _ => "xXbBoO".toList.contains c
  | _ => false

/-- The literal that a number word spells: an integer if it names a base, else
a date if there is a `T` in it, else a decimal if there is a point or an
exponent, else an integer. One `-` in front decides nothing. -/
def ofNumber (clock : Clock) (word : Text) : Except ValueError Value :=
  let unsigned := match word with
    | '-' :: cs => cs
    | cs => cs
  if namesBase unsigned then ofInteger word
  else if unsigned.contains 'T' then ofDate clock word
  else if unsigned.any (".eE".toList.contains ·) then ofDecimal word
  else ofInteger word

end Value

namespace Expr

open TokenStream

/-- One end of a slice, which may be left out. -/
def readBound (stream : TokenStream) : Except ScriptError (Option Int × TokenStream) :=
  match stream with
  | .cons (.number word) place rest =>
    match IntegerLiteral.read? word with
    | some n => do return (some n, ← rest.ready)
    | none => .error (.grammar (.badSliceBound word) place)
  | stream => .ok (none, stream)

/-- The operand, or a slice of it if a bracket comes next. -/
def readSlice (operand : Expr) (stream : TokenStream) : Except ScriptError (Expr × TokenStream) :=
  match stream with
  | .cons (.mark .openBracket) _ rest => do
    let (start, rest) ← readBound (← rest.ready)
    let (stop, rest) ← readBound (← rest.expect .colon)
    return (.slice operand start stop, ← rest.expect .closeBracket)
  | stream => do return (operand, ← stream.ready)

/-- A literal value behind its token. -/
def readLiteral (literal : Except ValueError Value) (place : Position) (rest : TokenStream) :
    Except ScriptError (Expr × TokenStream) := do
  let rest ← rest.ready
  match literal with
  | .ok v => .ok (.value v, rest)
  | .error e => .error (.literal e place)

def readOperand (clock : Clock) (stream : TokenStream) : Except ScriptError (Expr × TokenStream) :=
  match stream with
  | .cons (.column name) _ rest => readSlice (.value (.variable name)) rest
  | .cons (.identifier name) _ rest => readSlice (.value (.ofName name)) rest
  | .cons (.string raw text) place rest => readLiteral (.ok (.string raw text)) place rest
  | .cons (.regex source) place rest => readLiteral (Value.ofPattern source) place rest
  | .cons (.number word) place rest => readLiteral (Value.ofNumber clock word) place rest
  | stream => .error (stream.refuse .expectedValue)

/-- A comparison, a range or a pattern. -/
def readComparison (clock : Clock) (stream : TokenStream) :
    Except ScriptError (Expr × TokenStream) := do
  let (left, rest) ← readOperand clock stream
  match rest with
  | .cons (.operator op) _ rest =>
    let (middle, rest) ← readOperand clock rest
    match rest with
    | .cons (.operator op') _ rest =>
      let (right, rest) ← readOperand clock rest
      match Comparison.range ⟨left, op, middle⟩ ⟨middle, op', right⟩ with
      | .ok range => .ok (range, rest)
      | .error e => .error (.range e stream.place)
    | rest => .ok (.compare left op middle, rest)
  | rest =>
    match left with
    | .value (.regexp _) => .ok (.againstLine .equal left, rest)
    | _ => .error (.grammar (.expectedComparison left) stream.place)

def readSelection (clock : Clock) : TokenStream → Except ScriptError (Expr × TokenStream)
  | .cons (.mark .bang) _ rest => do
    let (inner, rest) ← readSelection clock rest
    return (.not inner, rest)
  | .cons (.mark .openParen) _ rest => do
    let (inner, rest) ← readSelection clock rest
    return (inner, ← rest.expect .closeParen)
  | .cons (.operator op) _ rest => do
    let (right, rest) ← readOperand clock rest
    return (.againstLine op right, rest)
  | stream => readComparison clock stream

def readParam (clock : Clock) (stream : TokenStream) :
    Except ScriptError (Expr × TokenStream) := do
  let (left, rest) ← readOperand clock stream
  match rest with
  | .cons (.operator op) _ rest =>
    let (right, rest) ← readOperand clock rest
    return (.compare left op right, rest)
  | rest => return (left, rest)

/-! Every reader that succeeds takes at least one token. -/

theorem length_le_of_readBound {stream rest : TokenStream} {bound : Option Int}
    (h : readBound stream = .ok (bound, rest)) : rest.length ≤ stream.length := by
  unfold readBound at h
  split at h
  · split at h
    · simp only [bind_eq_ok, pure_eq_ok, Prod.mk.injEq] at h
      obtain ⟨next, hready, -, rfl⟩ := h
      simp [ready_eq_ok hready, length]
    · cases h
  · cases h; exact Nat.le_refl _

theorem length_le_of_readSlice {operand e : Expr} {stream rest : TokenStream}
    (h : readSlice operand stream = .ok (e, rest)) : rest.length ≤ stream.length := by
  unfold readSlice at h
  split at h
  · simp only [bind_eq_ok, pure_eq_ok, Prod.mk.injEq] at h
    obtain ⟨opened, hopen, ⟨start, s₁⟩, hstart, s₂, hcolon, ⟨stop, s₃⟩, hstop, s₄, hclose, -,
      rfl⟩ := h
    have := length_le_of_readBound hstart
    have := length_lt_of_expect hcolon
    have := length_le_of_readBound hstop
    have := length_lt_of_expect hclose
    simp only [ready_eq_ok hopen, length] at *
    omega
  · simp only [bind_eq_ok, pure_eq_ok, Prod.mk.injEq] at h
    obtain ⟨next, hready, -, rfl⟩ := h
    simp [ready_eq_ok hready]

theorem rest_eq_of_readLiteral {literal : Except ValueError Value} {place : Position} {e : Expr}
    {stream rest : TokenStream} (h : readLiteral literal place stream = .ok (e, rest)) :
    rest = stream := by
  simp only [readLiteral, bind_eq_ok] at h
  obtain ⟨next, hready, h⟩ := h
  cases literal <;> cases h
  exact ready_eq_ok hready

theorem length_lt_of_readOperand {clock : Clock} {stream rest : TokenStream} {e : Expr}
    (h : readOperand clock stream = .ok (e, rest)) : rest.length < stream.length := by
  unfold readOperand at h
  split at h
  · exact Nat.lt_succ_of_le (length_le_of_readSlice h)
  · exact Nat.lt_succ_of_le (length_le_of_readSlice h)
  · simp [rest_eq_of_readLiteral h, length]
  · simp [rest_eq_of_readLiteral h, length]
  · simp [rest_eq_of_readLiteral h, length]
  · cases h

theorem length_lt_of_readComparison {clock : Clock} {stream rest : TokenStream} {e : Expr}
    (h : readComparison clock stream = .ok (e, rest)) : rest.length < stream.length := by
  simp only [readComparison, bind_eq_ok] at h
  obtain ⟨⟨left, s₁⟩, hleft, h⟩ := h
  have hl := length_lt_of_readOperand hleft
  dsimp only at h
  split at h
  · simp only [bind_eq_ok] at h
    obtain ⟨⟨middle, s₂⟩, hmiddle, h⟩ := h
    have hm := length_lt_of_readOperand hmiddle
    dsimp only at h
    split at h
    · simp only [bind_eq_ok] at h
      obtain ⟨⟨right, s₃⟩, hright, h⟩ := h
      have hr := length_lt_of_readOperand hright
      split at h <;> cases h
      simp only [length] at *
      omega
    · cases h
      simp only [length] at hl
      omega
  · split at h <;> cases h
    exact hl

theorem length_lt_of_readSelection {clock : Clock} {stream rest : TokenStream} {e : Expr}
    (h : readSelection clock stream = .ok (e, rest)) : rest.length < stream.length := by
  fun_induction readSelection clock stream generalizing e rest with
  | case1 place next ih =>
    simp only [bind_eq_ok, pure_eq_ok, Prod.mk.injEq] at h
    obtain ⟨⟨inner, s₁⟩, hinner, -, rfl⟩ := h
    exact Nat.lt_succ_of_lt (ih hinner)
  | case2 place next ih =>
    simp only [bind_eq_ok, pure_eq_ok, Prod.mk.injEq] at h
    obtain ⟨⟨inner, s₁⟩, hinner, s₂, hclose, -, rfl⟩ := h
    exact Nat.lt_succ_of_lt (Nat.lt_trans (length_lt_of_expect hclose) (ih hinner))
  | case3 op place next =>
    simp only [bind_eq_ok, pure_eq_ok, Prod.mk.injEq] at h
    obtain ⟨⟨right, s₁⟩, hright, -, rfl⟩ := h
    exact Nat.lt_succ_of_lt (length_lt_of_readOperand hright)
  | case4 => exact length_lt_of_readComparison h

theorem length_lt_of_readParam {clock : Clock} {stream rest : TokenStream} {e : Expr}
    (h : readParam clock stream = .ok (e, rest)) : rest.length < stream.length := by
  simp only [readParam, bind_eq_ok] at h
  obtain ⟨⟨left, s₁⟩, hleft, h⟩ := h
  have hl := length_lt_of_readOperand hleft
  dsimp only at h
  split at h
  · simp only [bind_eq_ok, pure_eq_ok, Prod.mk.injEq] at h
    obtain ⟨⟨right, s₂⟩, hright, -, rfl⟩ := h
    have hr := length_lt_of_readOperand hright
    simp only [length] at hl ⊢
    omega
  · cases h
    exact hl

end Expr

end LineFilter
