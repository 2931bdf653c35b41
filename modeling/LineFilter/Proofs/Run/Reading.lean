import LineFilter.Proofs.Run.Sequence
import LineFilter.Proofs.Text.Decoding

/-!
# Reading octets is running on lines

An input is read one line of octets at a time: up to a line feed, without what
ends the line, then as text. A run that reads this way is the run on the lines
of the whole input as text, called one after another up to the first that
fails.
-/

namespace LineFilter

/-- The lines of a text: what stands between line feeds, without a carriage
return in front of one, and what follows the last one if it is anything. -/
def Text.lines (text : Text) : List Text :=
  (text.splitOn '\n').dropLast.map (Lines.withoutReturn '\r') ++
    (text.splitOn '\n').getLast?.toList.filter (· ≠ [])

namespace Octets

theorem lines_eq (octets : Octets) : octets.lines = (Utf8.decode octets).lines := by
  rw [lines, ← Utf8.cut_decode, Text.lines, ← Lines.pieces_eq_splitOn]
  rfl

-- ---------------------------------------------------------------------------
-- One line at a time
-- ---------------------------------------------------------------------------

/-- The octets up to a line feed, and it, and those behind. -/
def splitLine : Octets → Octets × Octets
  | [] => ([], [])
  | octet :: rest =>
    if octet = 10 then ([octet], rest) else (octet :: (splitLine rest).1, (splitLine rest).2)

/-- A line without its line feed, and without a carriage return in front of one. -/
def withoutEnd (line : Octets) : Octets :=
  if line.getLast? = some 10 then Lines.withoutReturn 13 line.dropLast else line

theorem length_splitLine_lt (octet : UInt8) (rest : Octets) :
    (splitLine (octet :: rest)).2.length < (octet :: rest).length := by
  induction rest generalizing octet with
  | nil =>
    rw [splitLine]
    split <;> exact Nat.one_pos
  | cons next rest ih =>
    rw [splitLine]
    split
    · exact Nat.lt_succ_self _
    · exact Nat.lt_succ_of_lt (ih next)

theorem splitLine_of_not_mem {line : Octets} (h : 10 ∉ line) : line.splitLine = (line, []) := by
  induction line with
  | nil => rfl
  | cons octet rest ih =>
    rw [splitLine, if_neg (Ne.symm (List.ne_of_not_mem_cons h)),
      ih (List.not_mem_of_not_mem_cons h)]

theorem splitLine_append {line : Octets} (h : 10 ∉ line) (rest : Octets) :
    splitLine (line ++ 10 :: rest) = (line ++ [10], rest) := by
  induction line with
  | nil => rfl
  | cons octet line ih =>
    rw [List.cons_append, splitLine, if_neg (Ne.symm (List.ne_of_not_mem_cons h)),
      ih (List.not_mem_of_not_mem_cons h)]
    rfl

theorem cut_splitLine {octets : Octets} (h : octets ≠ []) :
    Lines.cut 10 13 octets =
      octets.splitLine.1.withoutEnd :: Lines.cut 10 13 octets.splitLine.2 := by
  by_cases hfeed : 10 ∈ octets
  · obtain ⟨line, rest, rfl, hline⟩ := List.eq_append_cons_of_mem hfeed
    obtain ⟨first, others, hp⟩ := Lines.exists_pieces 10 rest
    rw [splitLine_append hline, withoutEnd, if_pos (by simp), List.dropLast_concat]
    dsimp only [Lines.cut]
    rw [Lines.pieces_append_lineFeed hline, hp]
    rfl
  · have hlast : octets.getLast? ≠ some 10 := fun hlast => hfeed (List.mem_of_getLast? hlast)
    rw [splitLine_of_not_mem hfeed, withoutEnd, if_neg hlast]
    dsimp only [Lines.cut]
    rw [Lines.pieces_of_not_mem hfeed]
    simp [h, Lines.pieces]

theorem lines_splitLine {octets : Octets} (h : octets ≠ []) :
    octets.lines = Utf8.decode octets.splitLine.1.withoutEnd :: octets.splitLine.2.lines := by
  rw [lines, cut_splitLine h]
  rfl

end Octets

-- ---------------------------------------------------------------------------
-- Counts that rules leave alone
-- ---------------------------------------------------------------------------

/-- Counts neither what rules select nor what they fail on. -/
structure Tally.BesideRules (count : Tally → Nat) : Prop where
  zero : count .zero = 0
  plus : ∀ a b, count (a.plus b) = count a + count b
  selected : count ⟨0, 1, 0, 0⟩ = 0
  errors : count ⟨0, 0, 1, 0⟩ = 0

theorem Tally.besideRules_lines : BesideRules Tally.lines := ⟨rfl, lines_plus, rfl, rfl⟩

theorem Tally.besideRules_unreadable : BesideRules Tally.unreadable :=
  ⟨rfl, unreadable_plus, rfl, rfl⟩

section
variable {count : Tally → Nat} (h : Tally.BesideRules count)
include h

theorem Transcript.count_followedBy {a b : Transcript} (ha : count a.tally = 0)
    (hb : count b.tally = 0) : count (a.followedBy b).tally = 0 := by
  cases hf : a.failure with
  | none => rw [followedBy_of_passed hf, h.plus, ha, hb]
  | some failure => rw [followedBy_of_failed hf, ha]

theorem Transcript.count_sequence {parts : List Transcript} (hp : ∀ t ∈ parts, count t.tally = 0) :
    count (sequence parts).tally = 0 :=
  sequence_induction h.zero (fun _ _ => count_followedBy h) hp

theorem Rule.count_fail (policy : Policy) (rule : Rule) (cause : EvalError) :
    count (rule.fail policy cause).tally = 0 := by
  cases policy with
  | abort => exact h.zero
  | proceed => exact Transcript.count_followedBy h h.zero h.errors

theorem Rule.count_apply (options : Options) (env : Environment) (rule : Rule) :
    count (rule.apply options env).tally = 0 := by
  cases hs : rule.selects env with
  | error cause =>
    rw [apply_of_error hs]
    exact rule.count_fail h options.policy cause
  | ok selected =>
    cases selected with
    | false =>
      rw [apply_of_false hs]
      exact h.zero
    | true =>
      rw [apply_of_true hs, act_eq]
      refine Transcript.count_followedBy h h.selected (Transcript.count_followedBy h h.zero ?_)
      cases (rule.printed options.mode env).failure with
      | none => exact h.zero
      | some cause => exact rule.count_fail h options.policy cause

/-- A run on a line adds to such a count only where it counts the line. -/
theorem Program.count_runLine (options : Options) (clock : Clock) (program : Program) (number : Nat)
    (line : Text) :
    count (program.runLine options clock number line).tally = count ⟨1, 0, 0, 0⟩ := by
  rw [runLine_eq, Transcript.followedBy_of_passed rfl, h.plus]
  refine congrArg (count ⟨1, 0, 0, 0⟩ + ·) (Transcript.count_followedBy h ?_ ?_)
  · refine Transcript.count_sequence h fun t ht => ?_
    obtain ⟨rule, -, rfl⟩ := List.mem_map.mp ht
    exact rule.count_apply h options _
  · unfold entry
    cases options.mode <;> exact h.zero

end

namespace Program

/-- Reads a line, runs on it and goes on behind it, unless the run has failed. -/
def readOn (options : Options) (clock : Clock) (program : Program) (number : Nat) :
    Octets → Transcript
  | [] => .empty
  | octet :: rest =>
    (program.runLine options clock number
        (Utf8.decode (Octets.splitLine (octet :: rest)).1.withoutEnd)).followedBy
      (readOn options clock program (number + 1) (Octets.splitLine (octet :: rest)).2)
termination_by octets => octets.length
decreasing_by exact Octets.length_splitLine_lt octet rest

/-- The runs on some lines, numbered from 0. -/
def calls (options : Options) (clock : Clock) (program : Program) (lines : List Text) :
    List Transcript :=
  lines.zipIdx.map fun (line, number) => program.runLine options clock number line

variable (options : Options) (clock : Clock) (program : Program)

theorem readOn_eq (number : Nat) (octets : Octets) :
    program.readOn options clock number octets =
      .sequence ((octets.lines.zipIdx number).map fun (line, number) =>
        program.runLine options clock number line) := by
  fun_induction readOn options clock program number octets with
  | case1 => rfl
  | case2 number octet rest ih =>
    rw [ih, Octets.lines_splitLine (List.cons_ne_nil octet rest)]
    rfl

/-- A run on octets does what the runs on its lines do, in order, up to the
first that fails. -/
theorem runOctets_decode (octets : Octets) :
    let run := program.runOctets options clock octets
    let calls := program.calls options clock (Utf8.decode octets).lines
    run = program.readOn options clock 0 octets ∧
      run.out = (Transcript.begun calls).flatMap (·.out) ∧
      run.notices = (Transcript.begun calls).flatMap (·.notices) ∧
      (∀ start : Tally, start.plus run.tally =
        (Transcript.begun calls).foldl (fun tally call => tally.plus call.tally) start) ∧
      run.failure = calls.findSome? (·.failure) ∧
      run.tally.lines = (Transcript.begun calls).length := by
  intro run calls
  have hrun : run = .sequence calls := by
    show Transcript.sequence (program.calls options clock octets.lines) = _
    rw [Octets.lines_eq]
  have hlines : ∀ call ∈ Transcript.begun calls, call.tally.lines = 1 := by
    intro call hcall
    obtain ⟨⟨line, number⟩, -, rfl⟩ :=
      List.mem_map.mp ((Transcript.begun_prefix calls).subset hcall)
    exact program.count_runLine Tally.besideRules_lines options clock number line
  refine ⟨(program.readOn_eq options clock 0 octets).symm, ?_⟩
  rw [hrun, Transcript.sequence_eq]
  refine ⟨rfl, rfl, ?_, rfl, ?_⟩
  · intro start
    rw [Tally.plus_total, List.foldl_map]
  · rw [Tally.count_total rfl Tally.lines_plus, List.map_map]
    calc ((Transcript.begun calls).map (Tally.lines ∘ Transcript.tally)).sum
        = ((Transcript.begun calls).map fun _ => 1).sum := congrArg _ (List.map_congr_left hlines)
      _ = (Transcript.begun calls).length := by
        rw [List.map_const', List.sum_replicate_nat, Nat.mul_one]

end Program

end LineFilter
