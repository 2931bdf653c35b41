import Mathlib.Algebra.GroupWithZero.Nat
import LineFilter.Run.Line

/-!
# What a sequence of transcripts comes to

A sequence ends with the first part that fails. The parts up to that one are
begun, the others are not, and what the sequence shows is what the begun parts
show: their output and notices in order, their counts added up, and the failure
of the last of them if it has one. The run on a line is such a sequence, and
what a rule adds to it depends on what its selection comes to.
-/

namespace LineFilter

namespace Tally

@[simp] theorem lines_plus (a b : Tally) : (a.plus b).lines = a.lines + b.lines := rfl

@[simp] theorem selected_plus (a b : Tally) : (a.plus b).selected = a.selected + b.selected := rfl

@[simp] theorem errors_plus (a b : Tally) : (a.plus b).errors = a.errors + b.errors := rfl

@[simp] theorem unreadable_plus (a b : Tally) :
    (a.plus b).unreadable = a.unreadable + b.unreadable := rfl

def total (tallies : List Tally) : Tally := tallies.foldr plus zero

@[simp] theorem total_nil : total [] = zero := rfl

@[simp] theorem total_cons (t : Tally) (rest : List Tally) :
    total (t :: rest) = t.plus (total rest) := rfl

/-- Counts go on from where they stood. -/
theorem plus_total (start : Tally) (tallies : List Tally) :
    start.plus (total tallies) = tallies.foldl plus start := by
  induction tallies generalizing start with
  | nil => rfl
  | cons t rest ih => rw [total_cons, ← plus_assoc, ih, List.foldl_cons]

/-- A count that adds up over two runs adds up over all. -/
theorem count_total {count : Tally → Nat} (hzero : count zero = 0)
    (hplus : ∀ a b, count (a.plus b) = count a + count b) (tallies : List Tally) :
    count (total tallies) = (tallies.map count).sum := by
  induction tallies with
  | nil => exact hzero
  | cons t rest ih => rw [total_cons, hplus, ih, List.map_cons, List.sum_cons]

end Tally

namespace Transcript

variable {a b : Transcript} {parts : List Transcript} {failure : RunError}

theorem followedBy_of_failed (h : a.failure = some failure) : a.followedBy b = a := by
  simp only [followedBy, h]

theorem followedBy_of_passed (h : a.failure = none) :
    a.followedBy b = ⟨a.out ++ b.out, a.notices ++ b.notices, a.tally.plus b.tally, b.failure⟩ := by
  simp only [followedBy, h]

theorem failure_followedBy : (a.followedBy b).failure = a.failure.or b.failure := by
  cases h : a.failure with
  | none => rw [followedBy_of_passed h, Option.none_or]
  | some failure => rw [followedBy_of_failed h, h, Option.some_or]

theorem failure_followedBy_eq_none :
    (a.followedBy b).failure = none ↔ a.failure = none ∧ b.failure = none := by
  rw [failure_followedBy, Option.or_eq_none_iff]

/-- What holds of nothing and is kept by going on holds of a sequence. -/
theorem sequence_induction {P : Transcript → Prop} (hempty : P empty)
    (hstep : ∀ a b, P a → P b → P (a.followedBy b)) (h : ∀ t ∈ parts, P t) :
    P (sequence parts) := by
  induction parts with
  | nil => exact hempty
  | cons t rest ih =>
    obtain ⟨ht, hrest⟩ := List.forall_mem_cons.mp h
    exact hstep t _ ht (ih hrest)

-- ---------------------------------------------------------------------------
-- Begun parts
-- ---------------------------------------------------------------------------

/-- The parts up to the first that fails, and that one. -/
def begun : List Transcript → List Transcript
  | [] => []
  | t :: rest => if t.failure.isSome then [t] else t :: begun rest

theorem begun_of_failed (h : a.failure = some failure) : begun (a :: parts) = [a] := by
  rw [begun, h]
  rfl

theorem begun_of_passed (h : a.failure = none) : begun (a :: parts) = a :: begun parts := by
  rw [begun, h]
  rfl

theorem begun_prefix (parts : List Transcript) : begun parts <+: parts := by
  induction parts with
  | nil => exact List.nil_prefix
  | cons t rest ih =>
    cases h : t.failure with
    | none =>
      rw [begun_of_passed h]
      exact (List.prefix_cons_inj t).mpr ih
    | some failure =>
      rw [begun_of_failed h]
      exact List.prefix_append [t] rest

/-- A sequence shows what its begun parts show. -/
theorem sequence_eq (parts : List Transcript) :
    sequence parts =
      { out := (begun parts).flatMap (·.out), notices := (begun parts).flatMap (·.notices)
        tally := .total ((begun parts).map (·.tally))
        failure := parts.findSome? (·.failure) } := by
  induction parts with
  | nil => rfl
  | cons t rest ih =>
    rw [sequence_cons]
    cases h : t.failure with
    | none =>
      rw [followedBy_of_passed h, begun_of_passed h, ih,
        List.findSome?_cons_of_isNone (by simp [h])]
      rfl
    | some failure =>
      rw [followedBy_of_failed h, begun_of_failed h, List.findSome?_cons_of_isSome (by simp [h])]
      obtain ⟨out, notices, tally, _⟩ := t
      simp

theorem failure_sequence_eq_none {α : Type} {items : List α} {f : α → Transcript} :
    (sequence (items.map f)).failure = none ↔ ∀ item ∈ items, (f item).failure = none := by
  rw [sequence_eq]
  dsimp only
  rw [List.findSome?_map, List.findSome?_eq_none_iff]
  rfl

/-- A sequence fails because one of its parts does, and it has written what
that part wrote last. -/
theorem exists_of_failure_sequence (h : (sequence parts).failure = some failure) :
    ∃ t ∈ parts, t.failure = some failure ∧ t.out <:+ (sequence parts).out := by
  induction parts with
  | nil => cases h
  | cons t rest ih =>
    rw [sequence_cons] at h ⊢
    cases ht : t.failure with
    | none =>
      rw [failure_followedBy, ht, Option.none_or] at h
      obtain ⟨last, hmem, hlast, hout⟩ := ih h
      refine ⟨last, List.mem_cons_of_mem t hmem, hlast, ?_⟩
      rw [followedBy_of_passed ht]
      exact hout.trans (List.suffix_append _ _)
    | some cause =>
      rw [followedBy_of_failed ht] at h ⊢
      exact ⟨t, List.mem_cons_self, h, List.suffix_refl _⟩

end Transcript

-- ---------------------------------------------------------------------------
-- Rules and lines
-- ---------------------------------------------------------------------------

namespace Rule

variable {options : Options} {env : Environment} {rule : Rule}

/-- What a rule that selects a line writes before the entry. -/
def printed (mode : Mode) (env : Environment) (rule : Rule) : Printed :=
  match mode with
  | .report => ⟨[], none⟩
  | .execute => rule.block.run .accepting env

theorem act_eq (options : Options) (env : Environment) (rule : Rule) :
    rule.act options env =
      (Transcript.wrote (rule.printed options.mode env).text).followedBy
        ((rule.printed options.mode env).failure.elim .empty (rule.fail options.policy)) := by
  obtain ⟨policy, mode⟩ := options
  cases mode <;> rfl

theorem apply_of_error {cause : EvalError} (h : rule.selects env = .error cause) :
    rule.apply options env = rule.fail options.policy cause := by
  rw [apply, h]

theorem apply_of_false (h : rule.selects env = .ok false) : rule.apply options env = .empty := by
  rw [apply, h]

theorem apply_of_true (h : rule.selects env = .ok true) :
    rule.apply options env =
      (Transcript.counted ⟨0, 1, 0, 0⟩).followedBy (rule.act options env) := by
  rw [apply, h]

end Rule

/-- What names stand for on a line. -/
abbrev Environment.ofLine (clock : Clock) (number : Nat) (line : Text) : Environment :=
  .ofRow clock (.ofLine number line)

/-- A run on a line counts it, then goes through the rules, then makes the entry. -/
theorem Program.runLine_eq (options : Options) (clock : Clock) (program : Program) (number : Nat)
    (line : Text) :
    program.runLine options clock number line =
      (Transcript.counted ⟨1, 0, 0, 0⟩).followedBy
        ((Transcript.sequence
            (program.map (·.apply options (.ofLine clock number line)))).followedBy
          (program.entry options (.ofLine clock number line) (.ofLine number line))) := by
  simp only [runLine, List.cons_append, Transcript.sequence_cons, Transcript.sequence_append,
    Transcript.sequence_nil, Transcript.followedBy_empty]

end LineFilter
