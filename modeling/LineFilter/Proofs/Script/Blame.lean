import LineFilter.Proofs.Script.Complete

/-!
# What an error blames

A reader that fails has an error for a text that is no token, for a literal that
means nothing, for operators that make no range or for a token that does not
follow. Each kind says where the phrase that it is about begins. Up to its last
token no stream could be read: a reader looks at one token behind what it takes,
and fails on every stream that begins with the same tokens.
-/

namespace LineFilter

open Grammar TokenStream

/-- What a fault found in place of what it asked for. -/
def SyntaxFault.found? : SyntaxFault → Option (Option Token)
  | .expectedMark _ found | .expectedValue found | .expectedCommand found => some found
  | .expectedComparison _ | .badSliceBound _ => none

/-- The text that means nothing. -/
def ValueError.raw : ValueError → Text
  | .integer raw | .decimal raw _ | .instant raw | .regexp raw => raw

/-- What an error is about, from its place on: some tokens that were taken, and
the rest, which begins with what is at fault. -/
inductive Blames (clock : Clock) : List Placed → TokenStream → ScriptError → Prop
  | lexical {error} : Blames clock [] (.fault error) (.lexical error)
  | number {word place rest error} : Value.ofNumber clock word = .error error →
      error.raw = word → Blames clock [] (.cons (.number word) place rest) (.literal error place)
  | pattern {source place rest error} : Value.ofPattern source = .error error →
      error.raw = source → Blames clock [] (.cons (.regex source) place rest) (.literal error place)
  | bound {word place rest} : IntegerLiteral.read? word = none →
      Blames clock [] (.cons (.number word) place rest) (.grammar (.badSliceBound word) place)
  | unexpected {rest fault} : rest.Reads → fault.found? = some rest.head? →
      Blames clock [] rest (.grammar fault rest.place)
  /-- An operand in front of a token that does not compare it. -/
  | uncompared {tokens rest e} : IsOperand clock tokens rest.head? e → rest.Reads →
      ¬ Compares rest.head? → (∀ p, e ≠ .value (.regexp p)) →
      Blames clock tokens rest (.grammar (.expectedComparison e) (rest.behind tokens).place)
  /-- Three operands with operators between them that make no range. -/
  | range {lefts middles rights left middle right op op' p q error} {last : TokenStream} :
      IsOperand clock lefts (some (.operator op)) left →
      IsOperand clock middles (some (.operator op')) middle →
      IsOperand clock rights last.head? right →
      Comparison.range ⟨left, op, middle⟩ ⟨middle, op', right⟩ = .error error →
      Blames clock (lefts ++ (.operator op, p) :: middles)
        (.cons (.operator op') q (last.behind rights))
        (.range error ((TokenStream.cons (.operator op') q (last.behind rights)).behind
          (lefts ++ (.operator op, p) :: middles)).place)

/-- An error has the place of the first thing that it is about. -/
theorem Blames.place_eq {clock : Clock} {taken : List Placed} {rest : TokenStream}
    {error : ScriptError} (h : Blames clock taken rest error) :
    error.place = (rest.behind taken).place := by
  cases h <;> rfl

-- ---------------------------------------------------------------------------
-- Streams that begin alike
-- ---------------------------------------------------------------------------

namespace TokenStream

/-- The streams begin with the same token, or both end or both have a fault. -/
def Alike (stream other : TokenStream) : Prop :=
  stream.head? = other.head? ∧ (stream.Reads ↔ other.Reads)

variable {stream rest : TokenStream} {token : Token} {place : Position}

theorem Alike.refl (stream : TokenStream) : stream.Alike stream := ⟨rfl, Iff.rfl⟩

theorem Alike.behind {other : TokenStream} (h : stream.Alike other) (tokens : List Placed) :
    (stream.behind tokens).Alike (other.behind tokens) := by
  cases tokens with
  | nil => exact h
  | cons token tokens => exact ⟨rfl, by simp⟩

theorem alike_cons {place' : Position} {rest' : TokenStream} :
    (cons token place rest).Alike (.cons token place' rest') := ⟨rfl, by simp⟩

theorem Alike.eq_cons (h : stream.Alike (.cons token place rest)) :
    ∃ place' rest', stream = .cons token place' rest' :=
  eq_cons_of_head? h.1

theorem Alike.eq_finish (h : stream.Alike (.finish place)) : ∃ place', stream = .finish place' := by
  obtain ⟨hhead, hreads⟩ := h
  cases stream with
  | finish place' => exact ⟨place', rfl⟩
  | fault error => exact absurd rfl (hreads.mpr reads_finish error)
  | cons => cases hhead

theorem Alike.eq_fault {error : LexError} (h : stream.Alike (.fault error)) :
    ∃ error', stream = .fault error' := by
  obtain ⟨hhead, hreads⟩ := h
  cases stream with
  | finish place' => exact absurd rfl (hreads.mp reads_finish error)
  | fault error' => exact ⟨error', rfl⟩
  | cons => cases hhead

theorem eq_of_ready {next : TokenStream} (h : stream.ready = .ok next) :
    next = stream ∧ stream.Reads := by
  cases stream with
  | fault => cases h
  | finish => exact ⟨ready_eq_ok h, reads_finish⟩
  | cons => exact ⟨ready_eq_ok h, reads_cons⟩

end TokenStream

-- ---------------------------------------------------------------------------
-- Readers that look one token ahead
-- ---------------------------------------------------------------------------

section
variable {α β : Type} {clock : Clock} {stream : TokenStream}

abbrev Reader (α : Type) := TokenStream → Except ScriptError (α × TokenStream)

/-- What the reader takes off a stream it takes off all that go on alike. -/
def Takes (read : Reader α) (stream : TokenStream) : Prop :=
  ∀ x rest, read stream = .ok (x, rest) → ∃ tokens, stream = rest.behind tokens ∧
    ∀ rest' : TokenStream, rest'.Alike rest → read (rest'.behind tokens) = .ok (x, rest')

/-- The error says why the reader fails, and it fails on all streams that are alike
up to the token at fault. -/
def Blamed (clock : Clock) (read : TokenStream → Except ScriptError α) (stream : TokenStream)
    (error : ScriptError) : Prop :=
  ∃ front taken rest, stream = rest.behind (front ++ taken) ∧ Blames clock taken rest error ∧
    ∀ rest' : TokenStream, rest'.Alike rest →
      ∃ error', read (rest'.behind (front ++ taken)) = .error error'

def Points (clock : Clock) (read : TokenStream → Except ScriptError α) (stream : TokenStream) :
    Prop :=
  ∀ error, read stream = .error error → Blamed clock read stream error

/-- A failure behind some tokens is the failure of what reads on there. -/
theorem Blamed.behind {read : TokenStream → Except ScriptError α}
    {next : TokenStream → Except ScriptError β} {error : ScriptError} (tokens : List Placed)
    (hr : ∀ other error, other.Alike stream → next other = .error error →
      read (other.behind tokens) = .error error)
    (h : Blamed clock next stream error) : Blamed clock read (stream.behind tokens) error := by
  obtain ⟨front, taken, rest, rfl, hblames, hfails⟩ := h
  refine ⟨tokens ++ front, taken, rest, by simp, hblames, fun rest' ha => ?_⟩
  obtain ⟨error', herror⟩ := hfails rest' ha
  rw [List.append_assoc, behind_append]
  exact ⟨error', hr _ _ (ha.behind _) herror⟩

structure Local (clock : Clock) (read : Reader α) (stream : TokenStream) : Prop where
  takes : Takes read stream
  points : Points clock read stream

theorem Takes.bind {read : Reader α} {next : α × TokenStream → Except ScriptError (β × TokenStream)}
    (h : Takes read stream)
    (hn : ∀ x rest, read stream = .ok (x, rest) → Takes (fun s => next (x, s)) rest) :
    Takes (fun s => read s >>= next) stream := by
  intro y rest hy
  obtain ⟨⟨x, middle⟩, hx, hxy⟩ := bind_eq_ok.mp hy
  obtain ⟨tokens, rfl, hread⟩ := h x middle hx
  obtain ⟨others, rfl, hnext⟩ := hn x middle hx y rest hxy
  refine ⟨tokens ++ others, behind_append.symm, fun rest' ha => ?_⟩
  rw [behind_append]
  exact bind_eq_ok.mpr ⟨_, hread _ (ha.behind others), hnext rest' ha⟩

theorem Points.bind {read : Reader α} {next : α × TokenStream → Except ScriptError β}
    (h : Local clock read stream)
    (hn : ∀ x rest, read stream = .ok (x, rest) → Points clock (fun s => next (x, s)) rest) :
    Points clock (fun s => read s >>= next) stream := by
  intro error he
  rcases bind_eq_error.mp he with hread | ⟨⟨x, middle⟩, hx, hnext⟩
  · exact (h.points error hread).behind [] fun _ _ _ herror => bind_eq_error.mpr (.inl herror)
  · obtain ⟨tokens, rfl, hread⟩ := h.takes x middle hx
    exact (hn x middle hx error hnext).behind tokens fun other _ ha herror =>
      bind_eq_error.mpr (.inr ⟨_, hread other ha, herror⟩)

theorem Local.bind {read : Reader α} {next : α × TokenStream → Except ScriptError (β × TokenStream)}
    (h : Local clock read stream)
    (hn : ∀ x rest, read stream = .ok (x, rest) → Local clock (fun s => next (x, s)) rest) :
    Local clock (fun s => read s >>= next) stream :=
  ⟨h.takes.bind fun x rest hx => (hn x rest hx).takes,
    .bind h fun x rest hx => (hn x rest hx).points⟩

theorem Local.done (x : α) : Local clock (fun s => .ok (x, s)) stream := by
  refine ⟨fun y rest h => ?_, fun _ h => nomatch h⟩
  cases h
  exact ⟨[], rfl, fun _ _ => rfl⟩

/-- A reader that fails at the first token. -/
theorem Local.fails {read : Reader α} {error : ScriptError} (hb : Blames clock [] stream error)
    (h : read stream = .error error)
    (hf : ∀ other, other.Alike stream → ∃ error', read other = .error error') :
    Local clock read stream := by
  refine ⟨fun x rest hx => ?_, fun error' he => ?_⟩
  · rw [h] at hx
    cases hx
  · rw [h] at he
    cases he
    exact ⟨[], [], stream, rfl, hb, hf⟩

/-- Readers behind some tokens that say how reading goes on. -/
theorem Points.behind {read next : TokenStream → Except ScriptError α} (tokens : List Placed)
    (hr : ∀ other, other.Alike stream → read (other.behind tokens) = next other)
    (h : Points clock next stream) : Points clock read (stream.behind tokens) := by
  intro error he
  rw [hr stream (.refl _)] at he
  exact (h error he).behind tokens fun other _ ha herror => (hr other ha).trans herror

theorem Local.behind {read next : Reader α} (tokens : List Placed)
    (hr : ∀ other, other.Alike stream → read (other.behind tokens) = next other)
    (h : Local clock next stream) : Local clock read (stream.behind tokens) := by
  refine ⟨fun x rest hx => ?_, h.points.behind tokens hr⟩
  rw [hr stream (.refl _)] at hx
  obtain ⟨others, rfl, hnext⟩ := h.takes x rest hx
  refine ⟨tokens ++ others, behind_append.symm, fun rest' ha => ?_⟩
  rw [behind_append, hr _ (ha.behind others)]
  exact hnext rest' ha

theorem Points.congr {read next : TokenStream → Except ScriptError α}
    (hr : ∀ other, other.Alike stream → read other = next other)
    (h : Points clock next stream) : Points clock read stream :=
  h.behind [] hr

theorem Local.congr {read next : Reader α}
    (hr : ∀ other, other.Alike stream → read other = next other)
    (h : Local clock next stream) : Local clock read stream :=
  h.behind [] hr

theorem local_ready : Local clock (fun s => s.ready.map fun rest => ((), rest)) stream := by
  cases stream with
  | fault error =>
    refine .fails .lexical rfl fun other ha => ?_
    obtain ⟨error', rfl⟩ := ha.eq_fault
    exact ⟨_, rfl⟩
  | finish place =>
    refine .congr (fun other ha => ?_) (.done ())
    obtain ⟨place', rfl⟩ := ha.eq_finish
    rfl
  | cons token place rest =>
    refine .congr (fun other ha => ?_) (.done ())
    obtain ⟨place', rest', rfl⟩ := ha.eq_cons
    rfl

/-- A stream that does not go on as it should is an error about its first token. -/
theorem local_refuse (fault : Option Token → SyntaxFault)
    (hf : ∀ found, (fault found).found? = some found) :
    Local clock (fun s => (.error (s.refuse fault) : Except ScriptError (α × TokenStream)))
      stream := by
  refine .fails ?_ rfl fun _ _ => ⟨_, rfl⟩
  cases stream with
  | fault error => exact .lexical
  | finish place => exact .unexpected reads_finish (hf _)
  | cons token place rest => exact .unexpected reads_cons (hf _)

theorem local_expect (mark : Mark) :
    Local clock (fun s => (s.expect mark).map fun rest => ((), rest)) stream := by
  by_cases h : stream.head? = some (.mark mark)
  · obtain ⟨place, rest, rfl⟩ := eq_cons_of_head? h
    refine Local.behind [(_, place)] (fun other _ => ?_) local_ready
    simp [expect]
  · refine .congr (fun other ha => ?_) (local_refuse (.expectedMark mark) fun _ => rfl)
    rw [← ha.1] at h
    cases other with
    | cons token place rest =>
      have hne : token ≠ .mark mark := fun ht => h (congrArg some ht)
      simp [expect, hne, Except.map]
    | _ => rfl

variable {next : Reader β} {again : TokenStream → Except ScriptError TokenStream}

/-- Readers that begin with one that has no result. -/
theorem Local.first (h : Local clock (fun s => (again s).map fun rest => ((), rest)) stream)
    (hn : ∀ rest, again stream = .ok rest → Local clock next rest) :
    Local clock (fun s => again s >>= next) stream := by
  have hbind : Local clock
      (fun s => (again s).map (fun rest => ((), rest)) >>= fun p => next p.2) stream := by
    refine h.bind fun _ rest hx => hn rest ?_
    cases hs : again stream with
    | error => simp [hs, Except.map] at hx
    | ok rest' =>
      simp only [hs, Except.map, Except.ok.injEq, Prod.mk.injEq] at hx
      rw [hx.2]
  refine hbind.congr fun other _ => ?_
  cases again other <;> rfl

theorem Local.ready (hn : stream.Reads → Local clock next stream) :
    Local clock (fun s => s.ready >>= next) stream := by
  refine .first local_ready fun rest h => ?_
  obtain ⟨rfl, hr⟩ := eq_of_ready h
  exact hn hr

theorem Local.expect {mark : Mark}
    (hn : ∀ place rest, stream = .cons (.mark mark) place rest → Local clock next rest) :
    Local clock (fun s => s.expect mark >>= next) stream := by
  refine .first (local_expect mark) fun rest h => ?_
  obtain ⟨place, rfl, -⟩ := expect_eq_ok.mp h
  exact hn place rest rfl

end

end LineFilter
