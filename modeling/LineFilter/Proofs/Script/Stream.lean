import LineFilter.Proofs.Script.Grammar

/-!
# Streams and the tokens in front of them

A reader takes tokens off the front of a stream. `behind` puts them back, so
what a reader took is what has to stand in front of the rest.
-/

namespace LineFilter.TokenStream

open Grammar (Placed first)

/-- The stream with some tokens in front of it. -/
def behind (rest : TokenStream) (tokens : List Placed) : TokenStream :=
  tokens.foldr (fun token stream => .cons token.1 token.2 stream) rest

/-- The stream begins with a token or is at its end. -/
def Reads (stream : TokenStream) : Prop := ∀ error, stream ≠ .fault error

variable {stream rest : TokenStream}

@[simp] theorem behind_nil : rest.behind [] = rest := rfl

@[simp] theorem behind_cons {token : Placed} {tokens : List Placed} :
    rest.behind (token :: tokens) = .cons token.1 token.2 (rest.behind tokens) := rfl

@[simp] theorem behind_append {left right : List Placed} :
    rest.behind (left ++ right) = (rest.behind right).behind left := by
  simp [behind, List.foldr_append]

theorem head?_behind (tokens : List Placed) :
    (rest.behind tokens).head? = (first tokens).or rest.head? := by
  cases tokens <;> rfl

@[simp] theorem head?_cons {token : Token} {place : Position} :
    (cons token place rest).head? = some token := rfl

@[simp] theorem head?_finish {place : Position} : (finish place).head? = none := rfl

theorem eq_cons_of_head? {token : Token} (h : stream.head? = some token) :
    ∃ place next, stream = .cons token place next := by
  cases stream with
  | cons head place next =>
    cases h
    exact ⟨place, next, rfl⟩
  | _ => cases h

@[simp] theorem reads_cons {token : Token} {place : Position} : (cons token place rest).Reads :=
  fun _ h => nomatch h

@[simp] theorem reads_finish {place : Position} : (finish place).Reads := fun _ h => nomatch h

theorem Reads.behind (h : rest.Reads) (tokens : List Placed) : (rest.behind tokens).Reads := by
  cases tokens with
  | nil => exact h
  | cons => exact reads_cons

theorem Reads.ready (h : stream.Reads) : stream.ready = .ok stream := by
  cases stream with
  | fault error => exact absurd rfl (h error)
  | _ => rfl

theorem expect_eq_ok {mark : Mark} :
    stream.expect mark = .ok rest ↔
      ∃ place, stream = .cons (.mark mark) place rest ∧ rest.Reads := by
  constructor
  · intro h
    cases stream with
    | cons token place next =>
      simp only [expect] at h
      split at h
      · rename_i ht
        refine ⟨place, by rw [ht, ready_eq_ok h], ?_⟩
        rintro error rfl
        rw [← ready_eq_ok h] at h
        cases h
      · cases h
    | _ => cases h
  · rintro ⟨place, rfl, hr⟩
    simp [expect, hr.ready]

-- ---------------------------------------------------------------------------
-- Whole streams
-- ---------------------------------------------------------------------------

theorem placed_behind (tokens : List Placed) :
    (rest.behind tokens).placed = tokens ++ rest.placed := by
  induction tokens with
  | nil => rfl
  | cons token tokens ih => simp [placed, ih]

theorem map_fst_placed (stream : TokenStream) : stream.placed.map Prod.fst = stream.tokens := by
  induction stream with
  | finish | fault => rfl
  | cons token place rest ih => simp [placed, tokens, ih]

theorem mem_tokens_behind {token : Token} {place : Position} {tokens : List Placed}
    (rest : TokenStream) (h : (token, place) ∈ tokens) : token ∈ (rest.behind tokens).tokens := by
  rw [← map_fst_placed, placed_behind, List.map_append, List.mem_append]
  exact .inl (List.mem_map_of_mem h)

theorem length_behind (rest : TokenStream) (tokens : List Placed) :
    (rest.behind tokens).length = tokens.length + rest.length := by
  induction tokens with
  | nil => simp
  | cons token tokens ih =>
    rw [behind_cons, length, ih, List.length_cons]
    omega

theorem length_tokens (stream : TokenStream) : stream.tokens.length = stream.length := by
  induction stream with
  | finish | fault => rfl
  | cons token place rest ih => rw [tokens, List.length_cons, ih, length]

/-- A stream without a fault is its tokens in front of the end. -/
theorem eq_behind_of_ending {place : Position} (h : stream.ending = .ok place) :
    stream = (finish place).behind stream.placed := by
  induction stream with
  | finish => cases h; rfl
  | fault => cases h
  | cons token place rest ih => simpa [placed] using ih h

theorem ending_behind {place : Position} (tokens : List Placed) :
    ((finish place).behind tokens).ending = .ok place := by
  induction tokens with
  | nil => rfl
  | cons token tokens ih => exact ih

end LineFilter.TokenStream
