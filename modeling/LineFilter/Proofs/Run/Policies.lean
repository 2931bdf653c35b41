import LineFilter.Proofs.Run.Sequence
import LineFilter.Run.Input

/-!
# The two policies agree up to the first failure

A run that stops at the first failure and one that goes on do the same up to
there. So they are the same run if nothing fails; if something does, the first
one shows a beginning of what the second one shows, and the second one counts
the failure. The relation is kept by putting transcripts behind each other, and
so it goes from rules to lines and from lines to inputs.
-/

namespace LineFilter

namespace Tally

structure AtMost (a b : Tally) : Prop where
  lines : a.lines ≤ b.lines
  selected : a.selected ≤ b.selected
  errors : a.errors ≤ b.errors
  unreadable : a.unreadable ≤ b.unreadable

variable {a b : Tally}

theorem zero_atMost (a : Tally) : zero.AtMost a :=
  ⟨Nat.zero_le _, Nat.zero_le _, Nat.zero_le _, Nat.zero_le _⟩

theorem AtMost.plus_left (h : a.AtMost b) (c : Tally) : (c.plus a).AtMost (c.plus b) :=
  ⟨Nat.add_le_add_left h.lines _, Nat.add_le_add_left h.selected _,
    Nat.add_le_add_left h.errors _, Nat.add_le_add_left h.unreadable _⟩

theorem AtMost.plus_right (h : a.AtMost b) (c : Tally) : a.AtMost (b.plus c) :=
  ⟨Nat.le_add_right_of_le h.lines, Nat.le_add_right_of_le h.selected,
    Nat.le_add_right_of_le h.errors, Nat.le_add_right_of_le h.unreadable⟩

end Tally

namespace Transcript

/-- What a run that stops at failures says about the same run going on. -/
structure Foretells (stopped kept : Transcript) : Prop where
  goesOn : kept.failure = none
  uncounted : stopped.tally.errors = 0
  same : stopped.failure = none → kept = stopped
  out : stopped.failure ≠ none → stopped.out <+: kept.out
  tally : stopped.failure ≠ none → stopped.tally.AtMost kept.tally
  errors : stopped.failure ≠ none → 0 < kept.tally.errors

namespace Foretells

variable {stopped kept stopped' kept' : Transcript}

theorem refl {t : Transcript} (hf : t.failure = none) (he : t.tally.errors = 0) :
    Foretells t t where
  goesOn := hf
  uncounted := he
  same _ := rfl
  out h := absurd hf h
  tally h := absurd hf h
  errors h := absurd hf h

theorem wrote (text : Text) : Foretells (wrote text) (wrote text) := refl rfl rfl

theorem followedBy (h : Foretells stopped kept) (h' : Foretells stopped' kept') :
    Foretells (stopped.followedBy stopped') (kept.followedBy kept') := by
  rw [followedBy_of_passed h.goesOn]
  cases hs : stopped.failure with
  | some failure =>
    -- The second parts are behind the failure: only the run that goes on has them.
    have hne : stopped.failure ≠ none := by rw [hs]; exact nofun
    rw [followedBy_of_failed hs]
    exact
      { goesOn := h'.goesOn
        uncounted := h.uncounted
        same := fun hn => absurd hn hne
        out := fun _ => (h.out hne).trans (List.prefix_append _ _)
        tally := fun _ => (h.tally hne).plus_right _
        errors := fun _ => Nat.add_pos_left (h.errors hne) _ }
  | none =>
    rw [followedBy_of_passed hs, h.same hs]
    exact
      { goesOn := h'.goesOn
        uncounted := by rw [Tally.errors_plus, h.uncounted, h'.uncounted]
        same := fun hn => by rw [h'.same hn]
        out := fun hn => (List.prefix_append_right_inj _).mpr (h'.out hn)
        tally := fun hn => (h'.tally hn).plus_left _
        errors := fun hn => Nat.add_pos_right _ (h'.errors hn) }

theorem sequence {α : Type} {items : List α} {f g : α → Transcript}
    (h : ∀ item ∈ items, Foretells (f item) (g item)) :
    Foretells (sequence (items.map f)) (sequence (items.map g)) := by
  induction items with
  | nil => exact refl rfl rfl
  | cons item rest ih =>
    obtain ⟨hitem, hrest⟩ := List.forall_mem_cons.mp h
    rw [List.map_cons, List.map_cons, sequence_cons, sequence_cons]
    exact hitem.followedBy (ih hrest)

end Foretells

end Transcript

open Transcript (Foretells)

-- ---------------------------------------------------------------------------
-- Rules
-- ---------------------------------------------------------------------------

namespace Rule

/-- Why a rule can not be carried out in an environment, and what its block had
written by then. -/
inductive Breaks (mode : Mode) (env : Environment) (rule : Rule) : EvalError → Text → Prop
  | selection {cause} : rule.selects env = .error cause → Breaks mode env rule cause []
  | block {cause} : mode = .execute → rule.selects env = .ok true →
      (rule.block.run .accepting env).failure = some cause →
      Breaks mode env rule cause (rule.block.run .accepting env).text

variable (mode : Mode) (env : Environment) (rule : Rule)

theorem foretells_fail (cause : EvalError) :
    Foretells (rule.fail .abort cause) (rule.fail .proceed cause) where
  goesOn := rfl
  uncounted := rfl
  same := nofun
  out _ := List.nil_prefix
  tally _ := Tally.zero_atMost _
  errors _ := Nat.one_pos

theorem foretells_act :
    Foretells (rule.act ⟨.abort, mode⟩ env) (rule.act ⟨.proceed, mode⟩ env) := by
  rw [act_eq, act_eq]
  refine Foretells.followedBy (.wrote _) ?_
  cases (rule.printed mode env).failure with
  | none => exact .refl rfl rfl
  | some cause => exact foretells_fail rule cause

theorem foretells_apply :
    Foretells (rule.apply ⟨.abort, mode⟩ env) (rule.apply ⟨.proceed, mode⟩ env) := by
  cases h : rule.selects env with
  | error cause =>
    rw [apply_of_error h, apply_of_error h]
    exact foretells_fail rule cause
  | ok selected =>
    cases selected with
    | false =>
      rw [apply_of_false h, apply_of_false h]
      exact .refl rfl rfl
    | true =>
      rw [apply_of_true h, apply_of_true h]
      exact Foretells.followedBy (.refl rfl rfl) (foretells_act mode env rule)

variable {mode env rule} {failure : RunError}

theorem breaks_of_failure_apply (h : (rule.apply ⟨.abort, mode⟩ env).failure = some failure) :
    ∃ cause text, failure = .rule rule cause ∧ rule.Breaks mode env cause text ∧
      text <:+ (rule.apply ⟨.abort, mode⟩ env).out := by
  cases hs : rule.selects env with
  | error cause =>
    rw [apply_of_error hs] at h
    cases h
    exact ⟨cause, [], rfl, .selection hs, List.nil_suffix⟩
  | ok selected =>
    cases selected with
    | false =>
      rw [apply_of_false hs] at h
      cases h
    | true =>
      rw [apply_of_true hs, act_eq] at h ⊢
      rw [Transcript.followedBy_of_passed rfl, Transcript.followedBy_of_passed rfl] at h ⊢
      cases hb : (rule.printed mode env).failure with
      | none =>
        rw [hb] at h
        cases h
      | some cause =>
        rw [hb] at h
        cases h
        cases mode with
        | report => cases hb
        | execute =>
          refine ⟨cause, _, rfl, .block rfl hs hb, ?_⟩
          exact ⟨[], (List.append_nil _).symm⟩

end Rule

-- ---------------------------------------------------------------------------
-- Lines and inputs
-- ---------------------------------------------------------------------------

namespace Program

variable (mode : Mode) (clock : Clock) (program : Program)

theorem foretells_runLine (number : Nat) (line : Text) :
    Foretells (program.runLine ⟨.abort, mode⟩ clock number line)
      (program.runLine ⟨.proceed, mode⟩ clock number line) := by
  rw [runLine_eq, runLine_eq]
  refine Foretells.followedBy (.refl rfl rfl) (Foretells.followedBy ?_ ?_)
  · exact .sequence fun rule _ => rule.foretells_apply mode _
  · cases mode with
    | execute => exact .refl rfl rfl
    | report => exact .refl rfl rfl

theorem foretells_runOctets (octets : Octets) :
    Foretells (program.runOctets ⟨.abort, mode⟩ clock octets)
      (program.runOctets ⟨.proceed, mode⟩ clock octets) :=
  .sequence fun call _ => program.foretells_runLine mode clock call.2 call.1

variable {mode clock program} {failure : RunError}

theorem breaks_of_failure_runLine {number : Nat} {line : Text}
    (h : (program.runLine ⟨.abort, mode⟩ clock number line).failure = some failure) :
    ∃ rule ∈ program, ∃ cause text, failure = .rule rule cause ∧
      rule.Breaks mode (.ofLine clock number line) cause text ∧
      text <:+ (program.runLine ⟨.abort, mode⟩ clock number line).out := by
  obtain ⟨t, ht, hfailure, hout⟩ := Transcript.exists_of_failure_sequence h
  simp only [List.cons_append, List.mem_cons, List.mem_append, List.mem_map, List.not_mem_nil,
    or_false] at ht
  obtain rfl | ⟨rule, hrule, rfl⟩ | rfl := ht
  · cases hfailure
  · obtain ⟨cause, text, rfl, hbreaks, htext⟩ := Rule.breaks_of_failure_apply hfailure
    exact ⟨rule, hrule, cause, text, rfl, hbreaks, htext.trans hout⟩
  · cases mode <;> cases hfailure

theorem breaks_of_failure_runOctets {octets : Octets}
    (h : (program.runOctets ⟨.abort, mode⟩ clock octets).failure = some failure) :
    ∃ number line, octets.lines[number]? = some line ∧ ∃ rule ∈ program, ∃ cause text,
      failure = .rule rule cause ∧ rule.Breaks mode (.ofLine clock number line) cause text ∧
      text <:+ (program.runOctets ⟨.abort, mode⟩ clock octets).out := by
  obtain ⟨t, ht, hfailure, hout⟩ := Transcript.exists_of_failure_sequence h
  obtain ⟨⟨line, number⟩, hmem, rfl⟩ := List.mem_map.mp ht
  obtain ⟨rule, hrule, cause, text, heq, hbreaks, htext⟩ := breaks_of_failure_runLine hfailure
  exact ⟨number, line, List.mem_zipIdx_iff_getElem?.mp hmem, rule, hrule, cause, text, heq, hbreaks,
    htext.trans hout⟩

/-- How a run that stops at failures and one that passes over them compare,
counting on from a tally. -/
structure PoliciesAgree (mode : Mode) (clock : Clock) (program : Program) (octets : Octets)
    (start : Tally) (stopped kept : Transcript) : Prop where
  goesOn : kept.failure = none
  same : stopped.failure = none → kept.out = stopped.out ∧
    start.plus kept.tally = start.plus stopped.tally ∧
    (start.plus kept.tally).errors = start.errors
  /-- What the first run wrote comes first in what the second one wrote. -/
  out : stopped.failure ≠ none → stopped.out <+: kept.out
  tally : stopped.failure ≠ none → (start.plus stopped.tally).AtMost (start.plus kept.tally)
  uncounted : stopped.failure ≠ none → (start.plus stopped.tally).errors = start.errors
  counted : stopped.failure ≠ none ↔ start.errors < (start.plus kept.tally).errors
  /-- The first run ends with what the block wrote that failed. -/
  broken : ∀ failure, stopped.failure = some failure →
    ∃ number line, octets.lines[number]? = some line ∧ ∃ rule ∈ program, ∃ cause text,
      failure = .rule rule cause ∧ rule.Breaks mode (.ofLine clock number line) cause text ∧
      text <:+ stopped.out

theorem policies_agree (mode : Mode) (clock : Clock) (program : Program) (octets : Octets)
    (start : Tally) :
    PoliciesAgree mode clock program octets start (program.runOctets ⟨.abort, mode⟩ clock octets)
      (program.runOctets ⟨.proceed, mode⟩ clock octets) := by
  have h := program.foretells_runOctets mode clock octets
  have huncounted : (start.plus (program.runOctets ⟨.abort, mode⟩ clock octets).tally).errors =
      start.errors := by
    rw [Tally.errors_plus, h.uncounted, Nat.add_zero]
  exact
    { goesOn := h.goesOn
      same := fun hn => by
        rw [h.same hn]
        exact ⟨rfl, rfl, huncounted⟩
      out := h.out
      tally := fun hn => (h.tally hn).plus_left start
      uncounted := fun _ => huncounted
      counted := by
        refine ⟨fun hn => Nat.lt_add_of_pos_right (h.errors hn), ?_⟩
        intro hlt hn
        rw [h.same hn, huncounted] at hlt
        exact Nat.lt_irrefl _ hlt
      broken := fun _ hfailure => breaks_of_failure_runOctets hfailure }

end Program

end LineFilter
