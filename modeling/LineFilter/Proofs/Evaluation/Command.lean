import Mathlib.Data.List.Forall2
import LineFilter.Expr.Reader
import LineFilter.Program.Execution

/-!
# What commands write

An expression fails at a value behind `!`, however deep, and at the leftmost
one that is reached. A command fails if there is none of its name or if a
parameter fails, and that is settled before any of its text is written. Else it
writes its parameters with blanks between them.
-/

namespace LineFilter

-- ---------------------------------------------------------------------------
-- Expressions
-- ---------------------------------------------------------------------------

namespace Expr

/-- An expression comes to a `!` in front of what is no truth value. Parts are
gone through from left to right, and the upper half of a range only if the
lower one holds. -/
inductive Negates (env : Environment) : Expr → Expr → Prop
  | value {inner v} : inner.eval env = .ok (.value v) → Negates env (.not inner) inner
  | inner {inner operand} : Negates env inner operand → Negates env (.not inner) operand
  | left {left op right operand} : Negates env left operand →
      Negates env (.compare left op right) operand
  | right {left op right a operand} : left.eval env = .ok a → Negates env right operand →
      Negates env (.compare left op right) operand
  | lower {slope left lower middle upper right operand} : Negates env left operand →
      Negates env (.between slope left lower middle upper right) operand
  | middle {slope left lower middle upper right a operand} : left.eval env = .ok a →
      Negates env middle operand →
      Negates env (.between slope left lower middle upper right) operand
  | upper {slope left lower middle upper right a b operand} : left.eval env = .ok a →
      middle.eval env = .ok b → (slope.operator lower).holds env.clock a.asValue b.asValue →
      Negates env right operand →
      Negates env (.between slope left lower middle upper right) operand
  | slice {sliced start stop operand} : Negates env sliced operand →
      Negates env (.slice sliced start stop) operand

variable {env : Environment} {e operand : Expr} {cause : EvalError}

theorem Negates.eval (h : Negates env e operand) : e.eval env = .error (.negatedValue operand) := by
  induction h with
  | value hinner =>
    rw [Expr.eval, hinner]
    rfl
  | inner _ ih =>
    rw [Expr.eval, ih]
    rfl
  | left _ ih | lower _ ih | slice _ ih =>
    simp only [Expr.eval, ih]
    rfl
  | right hleft _ ih | middle hleft _ ih =>
    simp only [Expr.eval, hleft, ih]
    rfl
  | upper hleft hmiddle hholds _ ih =>
    simp only [Expr.eval, hleft, hmiddle]
    refine (if_pos hholds).trans ?_
    rw [ih]
    rfl

/-- Nothing else can go wrong in an expression. -/
theorem negates_of_eval (h : e.eval env = .error cause) :
    ∃ operand, Negates env e operand ∧ cause = .negatedValue operand := by
  induction e generalizing cause with
  | value v => cases h
  | compare left op right ihleft ihright =>
    simp only [Expr.eval, bind_eq_error] at h
    rcases h with h | ⟨a, ha, h | ⟨b, -, h⟩⟩
    · exact (ihleft h).imp fun _ => .imp .left id
    · exact (ihright h).imp fun _ => .imp (.right ha) id
    · cases h
  | between slope left lower middle upper right ihleft ihmiddle ihright =>
    simp only [Expr.eval, bind_eq_error] at h
    rcases h with h | ⟨a, ha, h | ⟨b, hb, h⟩⟩
    · exact (ihleft h).imp fun _ => .imp .lower id
    · exact (ihmiddle h).imp fun _ => .imp (.middle ha) id
    · split at h
      · rename_i hholds
        rcases bind_eq_error.mp h with h | ⟨c, -, h⟩
        · exact (ihright h).imp fun _ => .imp (.upper ha hb hholds) id
        · cases h
      · cases h
  | not inner ih =>
    simp only [Expr.eval, bind_eq_error] at h
    rcases h with h | ⟨a, ha, h⟩
    · exact (ih h).imp fun _ => .imp .inner id
    · cases a with
      | truth => cases h
      | value v =>
        cases h
        exact ⟨inner, .value ha, rfl⟩
  | slice sliced start stop ih =>
    simp only [Expr.eval, bind_eq_error] at h
    rcases h with h | ⟨a, -, h⟩
    · exact (ih h).imp fun _ => .imp .slice id
    · cases h

end Expr

-- ---------------------------------------------------------------------------
-- Commands
-- ---------------------------------------------------------------------------

section

variable {ε α β : Type} {f : α → Except ε β} {xs : List α}

theorem mapM_eq_ok {ys : List β} :
    xs.mapM f = .ok ys ↔ List.Forall₂ (fun x y => f x = .ok y) xs ys := by
  induction xs generalizing ys with
  | nil => rw [List.mapM_nil, pure_eq_ok, List.forall₂_nil_left_iff, eq_comm]
  | cons x xs ih =>
    simp only [List.mapM_cons, bind_eq_ok, pure_eq_ok, ih]
    constructor
    · rintro ⟨y, hy, ys, hys, rfl⟩
      exact .cons hy hys
    · rintro (_ | ⟨hy, hys⟩)
      exact ⟨_, hy, _, hys, rfl⟩

/-- The leftmost failure is the failure of all. -/
theorem mapM_eq_error {cause : ε} :
    xs.mapM f = .error cause ↔ ∃ before x after, xs = before ++ x :: after ∧
      (∀ y ∈ before, ∃ b, f y = .ok b) ∧ f x = .error cause := by
  induction xs with
  | nil => simp [pure, Except.pure]
  | cons x xs ih =>
    simp only [List.mapM_cons, bind_eq_error, ih]
    constructor
    · rintro (hx | ⟨y, hy, ⟨before, x', after, rfl, hbefore, hx'⟩ | ⟨ys, -, h⟩⟩)
      · exact ⟨[], x, xs, rfl, List.forall_mem_nil _, hx⟩
      · exact ⟨x :: before, x', after, rfl, List.forall_mem_cons.mpr ⟨⟨y, hy⟩, hbefore⟩, hx'⟩
      · cases h
    · rintro ⟨before, x', after, heq, hbefore, hx'⟩
      cases before with
      | nil =>
        obtain ⟨rfl, rfl⟩ := List.cons.inj heq
        exact .inl hx'
      | cons z before =>
        obtain ⟨rfl, rfl⟩ := List.cons.inj heq
        obtain ⟨⟨y, hy⟩, hbefore⟩ := List.forall_mem_cons.mp hbefore
        exact .inr ⟨y, hy, .inl ⟨before, x', after, rfl, hbefore, hx'⟩⟩

end

namespace Command

/-- The printed parameters of a command, with blanks between them. All of them
mean something. -/
def HasWords (env : Environment) (command : Command) (words : Text) : Prop :=
  ∃ outcomes, List.Forall₂ (fun e outcome => e.eval env = .ok outcome) command.params outcomes ∧
    words = Text.join [' '] (outcomes.map (·.asValue.text))

/-- What a command writes. -/
inductive Writes (env : Environment) (command : Command) : Text → Prop
  | print {words} : command.name = "print".toList → command.HasWords env words →
      Writes env command words
  | println {words} : command.name = "println".toList → command.HasWords env words →
      Writes env command (words ++ ['\n'])

/-- Why a command writes nothing. No parameter is looked at if there is no such
command, and else the leftmost that fails decides. -/
inductive Fails (env : Environment) (command : Command) : EvalError → Prop
  | unknown : command.name ≠ "print".toList → command.name ≠ "println".toList →
      Fails env command (.unknownCommand command.name command.place)
  | param {before e after operand} :
      command.name = "print".toList ∨ command.name = "println".toList →
      command.params = before ++ e :: after →
      (∀ other ∈ before, ∃ outcome, other.eval env = .ok outcome) →
      Expr.Negates env e operand → Fails env command (.negatedValue operand)

variable {env : Environment} {command : Command} {text : Text} {cause : EvalError}

theorem ending?_eq_none {name : Text} :
    ending? name = none ↔ name ≠ "print".toList ∧ name ≠ "println".toList := by
  unfold ending?
  split
  · rename_i h
    exact iff_of_false nofun fun hn => hn.1 h
  · rename_i hprint
    split
    · rename_i h
      exact iff_of_false nofun fun hn => hn.2 h
    · rename_i hprintln
      exact iff_of_true rfl ⟨hprint, hprintln⟩

theorem ending?_cases (name : Text) :
    name = "print".toList ∧ ending? name = some [] ∨
      name = "println".toList ∧ ending? name = some ['\n'] ∨
      (name ≠ "print".toList ∧ name ≠ "println".toList) ∧ ending? name = none := by
  by_cases hprint : name = "print".toList
  · exact .inl ⟨hprint, if_pos hprint⟩
  by_cases hprintln : name = "println".toList
  · exact .inr (.inl ⟨hprintln, (if_neg hprint).trans (if_pos hprintln)⟩)
  · exact .inr (.inr ⟨⟨hprint, hprintln⟩, ending?_eq_none.mpr ⟨hprint, hprintln⟩⟩)

theorem text_eq_ok_of_ending {ending : Text} (h : ending? command.name = some ending) :
    command.text env = .ok text ↔ ∃ words, command.HasWords env words ∧ words ++ ending = text := by
  simp only [Command.text, h, bind_eq_ok, pure_eq_ok, mapM_eq_ok, HasWords, Value.joined,
    List.map_map]
  constructor
  · rintro ⟨outcomes, houtcomes, rfl⟩
    exact ⟨_, ⟨outcomes, houtcomes, rfl⟩, rfl⟩
  · rintro ⟨_, ⟨outcomes, houtcomes, rfl⟩, rfl⟩
    exact ⟨outcomes, houtcomes, rfl⟩

theorem text_eq_error_of_ending {ending : Text} (h : ending? command.name = some ending) :
    command.text env = .error cause ↔ command.params.mapM (Expr.eval env) = .error cause := by
  simp only [Command.text, h, bind_eq_error]
  refine ⟨?_, .inl⟩
  rintro (hparams | ⟨outcomes, -, hpure⟩)
  · exact hparams
  · cases hpure

theorem text_eq_ok_iff : command.text env = .ok text ↔ command.Writes env text := by
  constructor
  · intro h
    rcases ending?_cases command.name with ⟨hname, hend⟩ | ⟨hname, hend⟩ | ⟨-, hend⟩
    · obtain ⟨words, hwords, rfl⟩ := (text_eq_ok_of_ending hend).mp h
      rw [List.append_nil]
      exact .print hname hwords
    · obtain ⟨words, hwords, rfl⟩ := (text_eq_ok_of_ending hend).mp h
      exact .println hname hwords
    · simp only [Command.text, hend] at h
      cases h
  · rintro (⟨hname, hwords⟩ | ⟨hname, hwords⟩)
    · have hend : ending? command.name = some [] := by rw [hname]; rfl
      exact (text_eq_ok_of_ending hend).mpr ⟨_, hwords, List.append_nil _⟩
    · have hend : ending? command.name = some ['\n'] := by rw [hname]; rfl
      exact (text_eq_ok_of_ending hend).mpr ⟨_, hwords, rfl⟩

theorem fails_of_mapM {ending : Text} (hend : ending? command.name = some ending)
    (hname : command.name = "print".toList ∨ command.name = "println".toList)
    (h : command.text env = .error cause) : command.Fails env cause := by
  obtain ⟨before, e, after, hparams, hbefore, he⟩ :=
    mapM_eq_error.mp ((text_eq_error_of_ending hend).mp h)
  obtain ⟨operand, hoperand, rfl⟩ := Expr.negates_of_eval he
  exact .param hname hparams hbefore hoperand

theorem text_eq_error_iff : command.text env = .error cause ↔ command.Fails env cause := by
  constructor
  · intro h
    rcases ending?_cases command.name with
      ⟨hname, hend⟩ | ⟨hname, hend⟩ | ⟨⟨hprint, hprintln⟩, hend⟩
    · exact fails_of_mapM hend (.inl hname) h
    · exact fails_of_mapM hend (.inr hname) h
    · simp only [Command.text, hend] at h
      cases h
      exact .unknown hprint hprintln
  · rintro (⟨hprint, hprintln⟩ | ⟨hname, hparams, hbefore, hoperand⟩)
    · simp only [Command.text, ending?_eq_none.mpr ⟨hprint, hprintln⟩]
    · obtain ⟨ending, hend⟩ : ∃ ending, ending? command.name = some ending := by
        rcases hname with hname | hname <;> rw [hname] <;> exact ⟨_, rfl⟩
      exact (text_eq_error_of_ending hend).mpr
        (mapM_eq_error.mpr ⟨_, _, _, hparams, hbefore, hoperand.eval⟩)

/-- A command all of whose parameters mean something fails only if there is none
of its name. -/
theorem unknown_of_text_eq_error (h : ∀ e ∈ command.params, ∃ outcome, e.eval env = .ok outcome)
    (hcause : command.text env = .error cause) :
    (command.name ≠ "print".toList ∧ command.name ≠ "println".toList) ∧
      cause = .unknownCommand command.name command.place := by
  rcases text_eq_error_iff.mp hcause with ⟨hprint, hprintln⟩ | ⟨-, hparams, -, hoperand⟩
  · exact ⟨⟨hprint, hprintln⟩, rfl⟩
  · obtain ⟨outcome, ho⟩ := h _ (hparams ▸ List.mem_append_cons_self)
    rw [hoperand.eval] at ho
    cases ho

/-- A command has a text or a reason to have none. -/
theorem writes_or_fails (env : Environment) (command : Command) :
    (∃ text, command.Writes env text) ∨ ∃ cause, command.Fails env cause := by
  cases h : command.text env with
  | ok text => exact .inl ⟨text, text_eq_ok_iff.mp h⟩
  | error cause => exact .inr ⟨cause, text_eq_error_iff.mp h⟩

theorem Writes.not_fails {text : Text} (h : command.Writes env text) :
    ¬ command.Fails env cause := by
  intro hfails
  rw [← text_eq_error_iff, text_eq_ok_iff.mpr h] at hfails
  cases hfails

theorem Writes.unique {text other : Text} (h : command.Writes env text)
    (h' : command.Writes env other) : text = other := by
  rw [← text_eq_ok_iff] at h h'
  exact Except.ok.inj (h.symm.trans h')

/-- A command with something to write: a `println`, or a `print` of any text. -/
def Speaks (env : Environment) (command : Command) : Prop :=
  ∃ words, command.HasWords env words ∧
    (command.name = "println".toList ∨ command.name = "print".toList ∧ words ≠ [])

theorem speaks_iff : command.Speaks env ↔ ∃ text, command.Writes env text ∧ text ≠ [] := by
  constructor
  · rintro ⟨words, hwords, hname | ⟨hname, hne⟩⟩
    · exact ⟨_, .println hname hwords, by simp⟩
    · exact ⟨_, .print hname hwords, hne⟩
  · rintro ⟨_, ⟨hname, hwords⟩ | ⟨hname, hwords⟩, hne⟩
    · exact ⟨_, hwords, .inr ⟨hname, hne⟩⟩
    · exact ⟨_, hwords, .inl hname⟩

/-- No command is to blame for what the output refuses. -/
theorem not_fails_closedOutput : ¬ command.Fails env .closedOutput := by
  rintro ⟨⟩

end Command

end LineFilter
