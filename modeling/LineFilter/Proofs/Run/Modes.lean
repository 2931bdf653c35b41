import LineFilter.Proofs.Evaluation.Safety
import LineFilter.Proofs.Text.Json

/-!
# Reporting and executing agree

A run that passes over failures shows the same selections in either mode. In
report mode it makes one entry a line, which reads as an object with the rules
that select the line; in execute mode it writes what the blocks of these rules
write, each by itself. Either way, what is written for a line comes from that
line alone.
-/

namespace LineFilter

-- ---------------------------------------------------------------------------
-- Runs that come to their end
-- ---------------------------------------------------------------------------

/-- Has come to its end with an output and counts. -/
structure Transcript.Shows (out : Text) (tally : Tally) (t : Transcript) : Prop where
  failure : t.failure = none
  out : t.out = out
  tally : t.tally = tally

namespace Transcript.Shows

variable {a b : Transcript} {out out' : Text} {tally tally' : Tally}

theorem empty : Shows [] .zero empty := ⟨rfl, rfl, rfl⟩

theorem wrote (text : Text) : Shows text .zero (wrote text) := ⟨rfl, rfl, rfl⟩

theorem counted (tally : Tally) : Shows [] tally (counted tally) := ⟨rfl, rfl, rfl⟩

theorem followedBy (ha : Shows out tally a) (hb : Shows out' tally' b) :
    Shows (out ++ out') (tally.plus tally') (a.followedBy b) := by
  rw [followedBy_of_passed ha.failure, ha.out, ha.tally, hb.out, hb.tally]
  exact ⟨hb.failure, rfl, rfl⟩

theorem sequence {α : Type} {items : List α} {run : α → Transcript} {out : α → Text}
    {tally : α → Tally} (h : ∀ item ∈ items, Shows (out item) (tally item) (run item)) :
    Shows (items.flatMap out) (.total (items.map tally)) (sequence (items.map run)) := by
  induction items with
  | nil => exact empty
  | cons item rest ih =>
    obtain ⟨hitem, hrest⟩ := List.forall_mem_cons.mp h
    exact hitem.followedBy (ih hrest)

end Transcript.Shows

-- ---------------------------------------------------------------------------
-- Rules that select a line
-- ---------------------------------------------------------------------------

/-- Whether the selection of a rule holds, and is no error. -/
def Rule.holds (env : Environment) (rule : Rule) : Bool :=
  match rule.selects env with
  | .ok selected => selected
  | .error _ => false

theorem Rule.holds_iff {env : Environment} {rule : Rule} :
    rule.holds env = true ↔ rule.selects env = .ok true := by
  unfold holds
  cases rule.selects env with
  | error cause => simp
  | ok selected => simp

namespace Program

variable (env : Environment) (program : Program)

theorem selecting_eq :
    program.selecting env = (program.zipIdx.filter (·.1.holds env)).map (·.2) := by
  rw [selecting, ← List.filterMap_eq_map, List.filterMap_filter]
  refine congrArg (List.filterMap · program.zipIdx) (funext ?_)
  rintro ⟨rule, index⟩
  cases h : rule.selects env with
  | error cause => simp [Rule.holds, h]
  | ok selected => cases selected <;> simp [Rule.holds, h]

theorem pairwise_selecting : (program.selecting env).Pairwise (· < ·) := by
  rw [selecting_eq]
  have hnumbers : (program.zipIdx.map (·.2)).Pairwise (· < ·) := by
    rw [List.zipIdx_map_snd]
    exact List.pairwise_lt_range'
  exact hnumbers.sublist (List.filter_sublist.map _)

theorem mem_selecting {index : Nat} :
    index ∈ program.selecting env ↔
      ∃ rule, program[index]? = some rule ∧ rule.selects env = .ok true := by
  rw [selecting_eq, List.mem_map]
  constructor
  · rintro ⟨⟨rule, _⟩, hmem, rfl⟩
    obtain ⟨hrule, hholds⟩ := List.mem_filter.mp hmem
    exact ⟨rule, List.mem_zipIdx_iff_getElem?.mp hrule, Rule.holds_iff.mp hholds⟩
  · rintro ⟨rule, hrule, hselects⟩
    refine ⟨(rule, index), List.mem_filter.mpr ⟨?_, Rule.holds_iff.mpr hselects⟩, rfl⟩
    exact List.mem_zipIdx_iff_getElem?.mpr hrule

/-- The numbers are those of the rules that hold, in order. -/
theorem map_selecting :
    (program.selecting env).map (program[·]?) = (program.filter (·.holds env)).map some := by
  rw [selecting_eq, List.map_map]
  have hrules : ∀ numbered ∈ program.zipIdx.filter (·.1.holds env),
      program[numbered.2]? = some numbered.1 := fun numbered hmem =>
    List.mem_zipIdx_iff_getElem?.mp (List.mem_filter.mp hmem).1
  calc (program.zipIdx.filter (·.1.holds env)).map (fun numbered => program[numbered.2]?)
      = (program.zipIdx.filter (·.1.holds env)).map (fun numbered => some numbered.1) :=
        List.map_congr_left hrules
    _ = ((program.zipIdx.map (·.1)).filter (·.holds env)).map some := by
        rw [List.filter_map, List.map_map]
        rfl
    _ = (program.filter (·.holds env)).map some := by
        rw [List.zipIdx_map_fst]

end Program

-- ---------------------------------------------------------------------------
-- One line
-- ---------------------------------------------------------------------------

namespace Rule

variable {rule : Rule} {env : Environment}

theorem shows_act (mode : Mode) (env : Environment) (rule : Rule) :
    Transcript.Shows (rule.printed mode env).text
      ⟨0, 0, (rule.printed mode env).failure.isSome.toNat, 0⟩
      (rule.act ⟨.proceed, mode⟩ env) := by
  rw [act_eq]
  cases (rule.printed mode env).failure with
  | none =>
    rw [Option.elim_none, Transcript.followedBy_empty]
    exact .wrote _
  | some cause => exact ⟨rfl, List.append_nil _, rfl⟩

theorem shows_apply (mode : Mode) (h : rule.selects env = .ok true) :
    Transcript.Shows (rule.printed mode env).text
      ⟨0, 1, (rule.printed mode env).failure.isSome.toNat, 0⟩
      (rule.apply ⟨.proceed, mode⟩ env) := by
  have happly := (Transcript.Shows.counted ⟨0, 1, 0, 0⟩).followedBy (rule.shows_act mode env)
  rw [apply_of_true h]
  simpa [Tally.plus] using happly

end Rule

namespace Program

variable {program : Program} (mode : Mode) (env : Environment)

/-- The rules of a line write what those that hold write, and count them and
their failures. -/
theorem shows_rules (h : ∀ rule ∈ program, rule.Meaningful) :
    Transcript.Shows
      ((program.filter (·.holds env)).flatMap fun rule => (rule.printed mode env).text)
      ⟨0, (program.filter (·.holds env)).length,
        (program.filter (·.holds env)).countP fun rule => (rule.printed mode env).failure.isSome, 0⟩
      (.sequence (program.map (·.apply ⟨.proceed, mode⟩ env))) := by
  induction program with
  | nil => exact .empty
  | cons rule rest ih =>
    obtain ⟨hrule, hothers⟩ := List.forall_mem_cons.mp h
    have hrest := ih hothers
    obtain ⟨selected, hselected⟩ := hrule.selects env
    rw [List.map_cons, Transcript.sequence_cons]
    -- What the filter drops has done nothing.
    cases selected with
    | false =>
      have hholds : rule.holds env = false := by rw [Rule.holds, hselected]
      rw [Rule.apply_of_false hselected, Transcript.empty_followedBy,
        List.filter_cons_of_neg (by simp [hholds])]
      exact hrest
    | true =>
      have hboth := (Rule.shows_apply mode hselected).followedBy hrest
      rw [List.filter_cons_of_pos (Rule.holds_iff.mpr hselected)]
      refine ⟨hboth.failure, hboth.out, hboth.tally.trans ?_⟩
      cases hfailure : (rule.printed mode env).failure <;>
        simp [Tally.plus, hfailure, Nat.add_comm]

variable (program)

/-- What the block of a rule writes by itself, and what it fails with. -/
def printedBy (index : Nat) : Printed :=
  program[index]?.elim ⟨[], none⟩ (·.block.run .accepting env)

theorem map_printedBy :
    (program.selecting env).map (program.printedBy env) =
      (program.filter (·.holds env)).map (·.printed .execute env) := by
  have h := congrArg (List.map (Option.elim · ⟨[], none⟩ (Rule.printed .execute env)))
    (map_selecting env program)
  rw [List.map_map, List.map_map] at h
  exact h

theorem flatMap_printedBy :
    ((program.selecting env).flatMap fun index => (program.printedBy env index).text) =
      (program.filter (·.holds env)).flatMap fun rule => (rule.printed .execute env).text := by
  have h := congrArg (List.flatMap (·.text)) (program.map_printedBy env)
  rwa [List.flatMap_map, List.flatMap_map] at h

theorem countP_printedBy :
    ((program.selecting env).countP fun index => (program.printedBy env index).failure.isSome) =
      (program.filter (·.holds env)).countP fun rule =>
        (rule.printed .execute env).failure.isSome := by
  have h := congrArg (List.countP (·.failure.isSome)) (program.map_printedBy env)
  rwa [List.countP_map, List.countP_map] at h

theorem length_selecting :
    (program.selecting env).length = (program.filter (·.holds env)).length := by
  have h := congrArg List.length (map_selecting env program)
  rwa [List.length_map, List.length_map] at h

variable {program} (clock : Clock) (number : Nat) (line : Text)

theorem shows_report (h : ∀ rule ∈ program, rule.Meaningful) :
    Transcript.Shows
      ((Row.ofLine number line).report (program.selecting (.ofLine clock number line)) ++ ['\n'])
      ⟨1, (program.selecting (.ofLine clock number line)).length, 0, 0⟩
      (program.runLine ⟨.proceed, .report⟩ clock number line) := by
  have hrules := shows_rules .report (.ofLine clock number line) h
  have hline := (Transcript.Shows.counted ⟨1, 0, 0, 0⟩).followedBy (hrules.followedBy (.wrote
    ((Row.ofLine number line).report (program.selecting (.ofLine clock number line)) ++ ['\n'])))
  rw [runLine_eq]
  refine ⟨hline.failure, hline.out.trans ?_, hline.tally.trans ?_⟩
  · simp [Rule.printed]
  · simp [Rule.printed, Tally.plus, Tally.zero, length_selecting]

theorem shows_execute (h : ∀ rule ∈ program, rule.Meaningful) :
    Transcript.Shows
      ((program.selecting (.ofLine clock number line)).flatMap fun index =>
        (program.printedBy (.ofLine clock number line) index).text)
      ⟨1, (program.selecting (.ofLine clock number line)).length,
        (program.selecting (.ofLine clock number line)).countP fun index =>
          (program.printedBy (.ofLine clock number line) index).failure.isSome, 0⟩
      (program.runLine ⟨.proceed, .execute⟩ clock number line) := by
  have hrules := shows_rules .execute (.ofLine clock number line) h
  rw [← flatMap_printedBy, ← countP_printedBy, ← length_selecting] at hrules
  have hline := (Transcript.Shows.counted ⟨1, 0, 0, 0⟩).followedBy (hrules.followedBy .empty)
  rw [runLine_eq]
  refine ⟨hline.failure, hline.out.trans ?_, hline.tally.trans ?_⟩
  · rw [List.nil_append, List.append_nil]
  · simp [Tally.plus, Tally.zero]

-- ---------------------------------------------------------------------------
-- Inputs
-- ---------------------------------------------------------------------------

theorem total_lines {α : Type} (items : List α) (selected errors : α → Nat) :
    Tally.total (items.map fun item => ⟨1, selected item, errors item, 0⟩) =
      ⟨items.length, (items.map selected).sum, (items.map errors).sum, 0⟩ := by
  induction items with
  | nil => rfl
  | cons item rest ih =>
    rw [List.map_cons, Tally.total_cons, ih]
    simp [Tally.plus, Nat.add_comm]

/-- What a report and an execution show of an input. -/
structure ModesAgree (clock : Clock) (program : Program) (octets : Octets)
    (report execute : Transcript) : Prop where
  reported : report.failure = none
  executed : execute.failure = none
  /-- There is one entry a line. -/
  entries : report.out = octets.lines.zipIdx.flatMap fun (line, number) =>
    (Row.ofLine number line).report (program.selecting (.ofLine clock number line)) ++ ['\n']
  oneLine : ∀ number line,
    '\n' ∉ (Row.ofLine number line).report (program.selecting (.ofLine clock number line))
  meaning : ∀ number line,
    Json.read? ((Row.ofLine number line).report (program.selecting (.ofLine clock number line))) =
      some (.object [("line".toList, .ofNat number),
        ("matched".toList, .array ((program.selecting (.ofLine clock number line)).map .ofNat)),
        ("text".toList, .string line)])
  increasing : ∀ env, (program.selecting env).Pairwise (· < ·)
  selecting : ∀ env index, index ∈ program.selecting env ↔
    ∃ rule, program[index]? = some rule ∧ rule.selects env = .ok true
  /-- The blocks write in the order of the lines and of the rules. -/
  printed : execute.out = octets.lines.zipIdx.flatMap fun (line, number) =>
    (program.selecting (.ofLine clock number line)).flatMap fun index =>
      (program.printedBy (.ofLine clock number line) index).text
  lines : report.tally.lines = octets.lines.length ∧ execute.tally.lines = octets.lines.length
  selected : execute.tally.selected = report.tally.selected ∧
    report.tally.selected = (octets.lines.zipIdx.map fun (line, number) =>
      (program.selecting (.ofLine clock number line)).length).sum
  errors : report.tally.errors = 0 ∧
    execute.tally.errors = (octets.lines.zipIdx.map fun (line, number) =>
      (program.selecting (.ofLine clock number line)).countP fun index =>
        (program.printedBy (.ofLine clock number line) index).failure.isSome).sum

/-- A report of a program from a script and its execution agree on every input. -/
theorem ofScript_modesAgree {clock : Clock} {script : Text} {program : Program}
    (h : ofScript clock script = .ok program) (moment : Clock) (octets : Octets) :
    ModesAgree moment program octets (program.runOctets ⟨.proceed, .report⟩ moment octets)
      (program.runOctets ⟨.proceed, .execute⟩ moment octets) := by
  have hm := meaningful_of_ofScript h
  have hreport := Transcript.Shows.sequence fun call (_ : call ∈ octets.lines.zipIdx) =>
    shows_report moment call.2 call.1 hm
  have hexecute := Transcript.Shows.sequence fun call (_ : call ∈ octets.lines.zipIdx) =>
    shows_execute moment call.2 call.1 hm
  have hreported := hreport.tally.trans (total_lines _ _ _)
  have hexecuted := hexecute.tally.trans (total_lines _ _ _)
  rw [List.length_zipIdx] at hreported hexecuted
  have hnone : (octets.lines.zipIdx.map fun _ => 0).sum = 0 := by
    rw [List.map_const', List.sum_replicate_nat, Nat.mul_zero]
  exact
    { reported := hreport.failure
      executed := hexecute.failure
      entries := hreport.out
      oneLine := fun number line => Json.lineFeed_not_mem_report _ _
      meaning := fun number line => Json.read?_report _ _
      increasing := fun env => program.pairwise_selecting env
      selecting := fun env _ => program.mem_selecting env
      printed := hexecute.out
      lines := ⟨congrArg Tally.lines hreported, congrArg Tally.lines hexecuted⟩
      selected := ⟨(congrArg Tally.selected hexecuted).trans
        (congrArg Tally.selected hreported).symm, congrArg Tally.selected hreported⟩
      errors := ⟨(congrArg Tally.errors hreported).trans hnone, congrArg Tally.errors hexecuted⟩ }

/-- Prints a field, and fails before it has printed the number. -/
def breakingScript : Text := "%1 > 5 \x7b print(%1); shout(); print(%#) \x7d; /b/".toList

/-- A line that both rules select and one that none does. -/
def twoLines : Octets := [55, 32, 98, 10, 51, 32, 97, 10]

theorem ofScript_modesAgree_breaking :
    ∃ program, ofScript ⟨0, 0, .utc⟩ breakingScript = .ok program ∧
      ModesAgree ⟨0, 0, .utc⟩ program twoLines
        (program.runOctets ⟨.proceed, .report⟩ ⟨0, 0, .utc⟩ twoLines)
        (program.runOctets ⟨.proceed, .execute⟩ ⟨0, 0, .utc⟩ twoLines) ∧
      (program.runOctets ⟨.proceed, .execute⟩ ⟨0, 0, .utc⟩ twoLines).out = "77 b\n".toList ∧
      (program.runOctets ⟨.proceed, .execute⟩ ⟨0, 0, .utc⟩ twoLines).tally = ⟨2, 2, 1, 0⟩ := by
  have hscript : (ofScript ⟨0, 0, .utc⟩ breakingScript).toOption.any fun program =>
      (program.runOctets ⟨.proceed, .execute⟩ ⟨0, 0, .utc⟩ twoLines).out = "77 b\n".toList ∧
      (program.runOctets ⟨.proceed, .execute⟩ ⟨0, 0, .utc⟩ twoLines).tally = ⟨2, 2, 1, 0⟩ := by
    decide +kernel
  cases hp : ofScript ⟨0, 0, .utc⟩ breakingScript with
  | error cause => simp [hp, Except.toOption] at hscript
  | ok program =>
    rw [hp] at hscript
    exact ⟨program, rfl, ofScript_modesAgree hp _ _, of_decide_eq_true hscript⟩

end Program

end LineFilter
