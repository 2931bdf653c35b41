import LineFilter.Environment

/-!
# Names that stand for names

A chain of names ends in a value or it never ends. `Leads` says how far it goes
in a number of lookups, and resolving finds the value that a chain of at most 31
lookups ends in. Behind a longer chain it finds the empty text, so also where
names go round in a circle. Either way it finds what stands for itself.
-/

namespace LineFilter

namespace Value

/-- Whether a value is the name of another. -/
def isVariable : Value → Bool
  | .variable _ => true
  | _ => false

/-- Whether a value stands for itself. -/
def isConcrete : Value → Bool
  | .variable _ | .keyword _ => false
  | _ => true

/-- The value with a keyword as the instant that it means. -/
def dated (clock : Clock) : Value → Value
  | .keyword k => .instant k.name (k.resolve clock)
  | v => v

theorem exists_name {v : Value} (h : v.isVariable) : ∃ name, v = .variable name := by
  cases v <;> first | exact ⟨_, rfl⟩ | cases h

theorem ne_of_isConcrete {v : Value} (h : v.isConcrete) :
    (∀ name, v ≠ .variable name) ∧ ∀ k, v ≠ .keyword k := by
  constructor <;> rintro _ rfl <;> cases h

theorem isConcrete_dated {v : Value} (clock : Clock) (h : v.isVariable = false) :
    (v.dated clock).isConcrete := by
  cases v <;> first | rfl | cases h

theorem dated_of_isConcrete {v : Value} (clock : Clock) (h : v.isConcrete) : v.dated clock = v := by
  cases v <;> first | rfl | cases h

theorem isVariable_of_isConcrete {v : Value} (h : v.isConcrete) : v.isVariable = false := by
  cases v <;> first | rfl | cases h

end Value

namespace Environment

/-- From a value to another by a number of lookups, each of the name that the
one before found. -/
inductive Leads (env : Environment) : Nat → Value → Value → Prop
  | here {v} : Leads env 0 v v
  | lookup {n name w} : Leads env n (env.lookup name) w → Leads env (n + 1) (.variable name) w

variable {env : Environment} {u v w : Value} {m n : Nat}

-- ---------------------------------------------------------------------------
-- Chains
-- ---------------------------------------------------------------------------

theorem Leads.trans (h : env.Leads m v u) (h' : env.Leads n u w) : env.Leads (m + n) v w := by
  induction h with
  | here => rwa [Nat.zero_add]
  | lookup _ ih =>
    rw [Nat.succ_add]
    exact .lookup (ih h')

theorem Leads.split (h : env.Leads (m + n) v w) : ∃ u, env.Leads m v u ∧ env.Leads n u w := by
  induction m generalizing v with
  | zero =>
    rw [Nat.zero_add] at h
    exact ⟨v, .here, h⟩
  | succ m ih =>
    rw [Nat.succ_add] at h
    cases h with
    | lookup h =>
      obtain ⟨u, hu, hw⟩ := ih h
      exact ⟨u, .lookup hu, hw⟩

/-- A chain ends within some lookups or goes on behind them. -/
theorem leads_or_ends (env : Environment) (m : Nat) (v : Value) :
    (∃ n < m, ∃ w, env.Leads n v w ∧ w.isVariable = false) ∨ ∃ w, env.Leads m v w := by
  induction m generalizing v with
  | zero => exact .inr ⟨v, .here⟩
  | succ m ih =>
    cases hv : v.isVariable with
    | false => exact .inl ⟨0, Nat.succ_pos m, v, .here, hv⟩
    | true =>
      obtain ⟨name, rfl⟩ := Value.exists_name hv
      rcases ih (env.lookup name) with ⟨n, hn, w, hw, hend⟩ | ⟨w, hw⟩
      · exact .inl ⟨n + 1, Nat.succ_lt_succ hn, w, .lookup hw, hend⟩
      · exact .inr ⟨w, .lookup hw⟩

/-- A circle can be gone round as often as one likes. -/
theorem Leads.circle (h : env.Leads (n + 1) u u) (m : Nat) : ∃ k ≥ m, env.Leads k u u := by
  induction m with
  | zero => exact ⟨0, Nat.le_refl 0, .here⟩
  | succ m ih =>
    obtain ⟨k, hk, hround⟩ := ih
    exact ⟨k + (n + 1), by omega, hround.trans h⟩

-- ---------------------------------------------------------------------------
-- Following
-- ---------------------------------------------------------------------------

/-- Following a chain takes a step for each lookup. -/
theorem Leads.follow (h : env.Leads n v w) (m : Nat) : env.follow (n + m) v = env.follow m w := by
  induction h with
  | here => rw [Nat.zero_add]
  | lookup _ ih =>
    rw [Nat.succ_add]
    exact ih

theorem follow_of_not_isVariable (h : w.isVariable = false) (m : Nat) :
    env.follow (m + 1) w = w.dated env.clock := by
  cases w <;> first | rfl | cases h

theorem resolve_of_leads (h : env.Leads n v w) (hw : w.isVariable = false) (hn : n ≤ 31) :
    env.resolve v = w.dated env.clock := by
  have hsteps : maxSteps = n + (31 - n + 1) := by
    rw [maxSteps]
    omega
  rw [resolve, hsteps, h.follow, follow_of_not_isVariable hw]

theorem resolve_of_leads_far (h : env.Leads n v w) (hn : 32 ≤ n) : env.resolve v = .empty := by
  obtain ⟨m, rfl⟩ := Nat.exists_eq_add_of_le hn
  obtain ⟨u, hu, -⟩ := h.split
  exact hu.follow 0

theorem isConcrete_resolve (env : Environment) (v : Value) : (env.resolve v).isConcrete := by
  rcases env.leads_or_ends 32 v with ⟨n, hn, w, hw, hend⟩ | ⟨w, hw⟩
  · rw [resolve_of_leads hw hend (Nat.le_of_lt_succ hn)]
    exact Value.isConcrete_dated env.clock hend
  · rw [resolve_of_leads_far hw (Nat.le_refl 32)]
    rfl

theorem resolve_of_isConcrete (h : v.isConcrete) : env.resolve v = v := by
  rw [resolve_of_leads .here (Value.isVariable_of_isConcrete h) (Nat.zero_le 31),
    Value.dated_of_isConcrete env.clock h]

-- ---------------------------------------------------------------------------
-- Setting variables
-- ---------------------------------------------------------------------------

theorem follow_congr {env' : Environment} (h : ∀ name, env'.lookup name = env.lookup name)
    (hclock : env'.clock = env.clock) (m : Nat) (v : Value) :
    env'.follow m v = env.follow m v := by
  induction m generalizing v with
  | zero => rfl
  | succ m ih =>
    cases hv : v.isVariable with
    | false => rw [follow_of_not_isVariable hv, follow_of_not_isVariable hv, hclock]
    | true =>
      obtain ⟨name, rfl⟩ := Value.exists_name hv
      rw [follow, follow, h, ih]

/-- Whether a name is a reference to the row. -/
def isReference (name : Text) : Bool := name.head? = some '%'

theorem lookup_of_not_isReference {name : Text} (h : isReference name = false) :
    env.lookup name = (env.bound? name).getD .empty := by
  unfold lookup
  split
  · cases h
  · rfl

theorem lookup_set (env : Environment) (name other : Text) (value : Value) :
    (env.set name value).lookup other =
      if other = name ∧ isReference name = false then value else env.lookup other := by
  cases h : isReference other with
  | true =>
    obtain ⟨reference, rfl⟩ := List.head?_eq_some_iff.mp (of_decide_eq_true h)
    rw [if_neg]
    · rfl
    · rintro ⟨rfl, hname⟩
      rw [h] at hname
      cases hname
  | false =>
    rw [lookup_of_not_isReference h, lookup_of_not_isReference h, bound?_set]
    by_cases heq : other = name
    · rw [if_pos heq, if_pos ⟨heq, heq ▸ h⟩]
      rfl
    · rw [if_neg heq, if_neg fun hand => heq hand.1]

theorem set_set (env : Environment) (name : Text) (first second : Value) :
    (env.set name first).set name second = env.set name second := by
  simp [set]

-- ---------------------------------------------------------------------------
-- Resolving
-- ---------------------------------------------------------------------------

/-- What values stand for in the end. -/
structure Resolves (env : Environment) : Prop where
  concrete : ∀ v, (∀ name, env.resolve v ≠ .variable name) ∧ ∀ k, env.resolve v ≠ .keyword k
  settled : ∀ v, env.resolve (env.resolve v) = env.resolve v
  /-- A chain of at most 31 lookups is followed to its end. -/
  near : ∀ n ≤ 31, ∀ v w, env.Leads n v w → w.isVariable = false →
    env.resolve v = w.dated env.clock
  /-- A longer one stands for the empty text. -/
  far : ∀ n ≥ 32, ∀ v w, env.Leads n v w → env.resolve v = .empty
  /-- There are no other chains than these two kinds. -/
  near_or_far : ∀ v, (∃ n ≤ 31, ∃ w, env.Leads n v w ∧ w.isVariable = false) ∨
    ∃ n ≥ 32, ∃ w, env.Leads n v w
  /-- Names that come back to one that they have passed never end. -/
  circular : ∀ m n v u, env.Leads m v u → env.Leads (n + 1) u u → env.resolve v = .empty
  /-- Names of columns can be set, but they still stand for the columns. -/
  setReference : ∀ name value v, isReference name → (env.set name value).resolve v = env.resolve v
  setVariable : ∀ name value, isReference name = false → (env.set name value).lookup name = value ∧
    ∀ other, other ≠ name → (env.set name value).lookup other = env.lookup other
  setAgain : ∀ name first second, (env.set name first).set name second = env.set name second

theorem resolves (env : Environment) : env.Resolves where
  concrete v := Value.ne_of_isConcrete (env.isConcrete_resolve v)
  settled v := resolve_of_isConcrete (env.isConcrete_resolve v)
  near n hn v w h hw := resolve_of_leads h hw hn
  far n hn v w h := resolve_of_leads_far h hn
  near_or_far v := by
    rcases env.leads_or_ends 32 v with ⟨n, hn, hw⟩ | hw
    · exact .inl ⟨n, Nat.le_of_lt_succ hn, hw⟩
    · exact .inr ⟨32, Nat.le_refl 32, hw⟩
  circular m n v u hv hu := by
    obtain ⟨k, hk, hround⟩ := hu.circle 32
    exact resolve_of_leads_far (hv.trans hround) (Nat.le_trans hk (Nat.le_add_left k m))
  setReference name value v h := by
    have hlookup (other : Text) : (env.set name value).lookup other = env.lookup other := by
      rw [lookup_set, if_neg fun hand => Bool.false_ne_true (hand.2.symm.trans h)]
    exact follow_congr hlookup rfl maxSteps v
  setVariable name value h := by
    refine ⟨?_, fun other hne => ?_⟩
    · rw [lookup_set, if_pos ⟨rfl, h⟩]
    · rw [lookup_set, if_neg fun hand => hne hand.1]
  setAgain := env.set_set

/-- Names that each stand for the next one, and the last of them for a text. -/
def chain : Nat → List (Text × Value)
  | 0 => [(Text.ofNat 0, .untyped ['x'])]
  | n + 1 => (Text.ofNat (n + 1), .variable (Text.ofNat n)) :: chain n

-- The name `30` takes 31 lookups, and `31` one more.
example : (Environment.mk ⟨0, 0, .utc⟩ none (chain 31)).resolve (.variable (Text.ofNat 30)) =
      .untyped ['x'] ∧
    (Environment.mk ⟨0, 0, .utc⟩ none (chain 31)).resolve (.variable (Text.ofNat 31)) = .empty := by
  decide +kernel

end Environment

end LineFilter
