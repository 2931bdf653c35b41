import LineFilter.Proofs.Evaluation.Block
import LineFilter.Proofs.Evaluation.Command
import LineFilter.Proofs.Evaluation.Shape
import LineFilter.Proofs.Script.Failure
import LineFilter.Proofs.Script.Tiling

/-!
# Errors and commands in their script

The place of an error is the start of a token of the script, of its end or of
the text that is no token, and what stands there is what the error is about. No
program goes on as the script does up to the token at fault. A command has the
place of its name, and shows it when it runs and there is no such command.
-/

namespace LineFilter

open Grammar TokenStream
open Lexeme (source)

-- ---------------------------------------------------------------------------
-- Starts of tokens
-- ---------------------------------------------------------------------------

theorem TokenStream.ending_behind_eq (rest : TokenStream) (tokens : List Placed) :
    (rest.behind tokens).ending = rest.ending := by
  induction tokens with
  | nil => rfl
  | cons token tokens ih => exact ih

/-- The text between a lexeme and the one before; behind the last one, the gap at
the end. -/
def Lexeme.gapAt (lexemes : List Lexeme) (last : Text) (i : Nat) : Text :=
  (lexemes[i]?.map gap).getD last

/-- The text in front of the token with this number, or in front of what follows
the last one. -/
def Lexeme.upTo (lexemes : List Lexeme) (last : Text) (i : Nat) : Text :=
  source (lexemes.take i) (gapAt lexemes last i)

namespace Tiled

variable {cursor : Cursor} {before last tail : Text} {lexemes : List Lexeme}

/-- Behind some tokens, a stream stands where the text of these tokens ends. -/
theorem place_behind (h : Tiled cursor before lexemes last tail) {front : List Placed}
    {rest : TokenStream} (hs : ofCursor cursor = rest.behind front) :
    front.length ≤ lexemes.length ∧
      rest.place = .behind (before ++ Lexeme.upTo lexemes last front.length) := by
  have hplaced := h.placed
  have hending := h.ending
  have hends := ending_behind_eq rest front
  rw [hs] at hplaced hending
  rw [placed_behind] at hplaced
  simp only [hends] at hending
  have hall (hrest : rest.placed = []) : front.length = lexemes.length := by
    simpa [hrest] using congrArg List.length hplaced
  have hlast (hrest : rest.placed = []) :
      Lexeme.upTo lexemes last front.length = source lexemes last := by
    simp [Lexeme.upTo, Lexeme.gapAt, hall hrest]
  cases rest with
  | finish place =>
    refine ⟨(hall rfl).le, ?_⟩
    rw [hlast rfl]
    rcases hending with ⟨rfl, -, hend, -⟩ | ⟨-, -, error, hend, -⟩
    · rw [← List.append_nil (source lexemes last), ← h.text]
      exact Except.ok.inj hend
    · cases hend
  | fault error =>
    refine ⟨(hall rfl).le, ?_⟩
    rw [hlast rfl]
    rcases hending with ⟨-, -, hend, -⟩ | ⟨-, -, error', hend, -, hplace⟩
    · cases hend
    · cases hend
      exact hplace
  | cons token place rest =>
    have hget := congrArg (·[front.length]?) hplaced
    simp only [List.getElem?_append_right (Nat.le_refl _), Nat.sub_self, List.getElem?_mapIdx]
      at hget
    obtain ⟨lexeme, hlexeme, heq⟩ := Option.map_eq_some_iff.mp hget.symm
    obtain ⟨hlt, -⟩ := List.getElem?_eq_some_iff.mp hlexeme
    refine ⟨Nat.le_of_lt hlt, ?_⟩
    rw [Lexeme.upTo, Lexeme.gapAt, hlexeme]
    exact (congrArg Prod.snd heq).symm

end Tiled

/-- What an error says about its script. -/
def Diagnosed (clock : Clock) (script : Text) (error : ScriptError) : Prop :=
  ∃ lexemes last tail front taken rest,
    Tiled (.ofScript script) [] lexemes last tail ∧
      TokenStream.ofScript script = rest.behind (front ++ taken) ∧
      front.length ≤ lexemes.length ∧
      error.place = .behind (Lexeme.upTo lexemes last front.length) ∧
      Blames clock taken rest error ∧
      (rest.Reads → ∀ more program, first more = rest.head? →
        ¬ IsProgram clock (front ++ taken ++ more) program)

theorem Program.diagnosed {clock : Clock} {script : Text} {error : ScriptError}
    (h : Program.ofScript clock script = .error error) : Diagnosed clock script error := by
  obtain ⟨lexemes, last, tail, htiled⟩ : ∃ lexemes last tail,
      Tiled (.ofScript script) [] lexemes last tail := Cursor.exists_tiled _ rfl
  obtain ⟨front, taken, rest, hstream, hblames, hfails⟩ := read_points _ error h
  have hfront : TokenStream.ofScript script = (rest.behind taken).behind front :=
    hstream.trans behind_append
  obtain ⟨hle, hplace⟩ := htiled.place_behind hfront
  refine ⟨lexemes, last, tail, front, taken, rest, htiled, hstream, hle,
    hblames.place_eq.trans hplace, hblames, fun hr more program hmore hprogram => ?_⟩
  -- A program that begins so would be read, and the reader fails.
  have halike : ((finish .start).behind more).Alike rest := by
    refine ⟨?_, fun _ => hr, fun _ => reads_finish.behind more⟩
    rw [head?_behind, head?_finish, Option.or_none, hmore]
  obtain ⟨error', herror⟩ := hfails _ halike
  rw [← behind_append, read_complete hprogram] at herror
  cases herror

-- ---------------------------------------------------------------------------
-- Commands
-- ---------------------------------------------------------------------------

/-- The name of a command as it stands in a script. -/
def Command.nameToken (command : Command) : Placed := (.identifier command.name, command.place)

/-- The commands of a block that are written in the script. -/
def Block.written (block : Block) : Block := block.filter (·.place ≠ .implied)

namespace Grammar

variable {clock : Clock} {tokens : List Placed} {next : Option Token}

theorem IsCommand.nameToken_sublist {command : Command} (h : IsCommand clock tokens command) :
    [command.nameToken].Sublist tokens := by
  cases h with
  | bare => exact .cons_cons _ (List.nil_sublist _)
  | call => exact .cons_cons _ (List.nil_sublist _)

theorem IsCommands.nameTokens_sublist {block : Block} (h : IsCommands clock tokens block) :
    (block.map Command.nameToken).Sublist tokens := by
  induction h with
  | none => exact .slnil
  | more hc _ _ ih => exact hc.nameToken_sublist.append (ih.trans (List.sublist_append_right _ _))

theorem IsBlock.nameTokens_sublist {block : Block} (h : IsBlock clock tokens block) :
    (block.map Command.nameToken).Sublist tokens := by
  cases h with
  | braces _ hc =>
    exact .cons _ ((hc.nameTokens_sublist.trans (List.sublist_append_left _ _)).trans
      (List.sublist_append_right _ _))

/-- The commands of a block all have the places of their names. -/
theorem IsBlock.written_eq {block : Block} (h : IsBlock clock tokens block)
    (hp : ∀ token ∈ tokens, token.2 ≠ .implied) : block.written = block := by
  refine List.filter_eq_self.mpr fun command hc => decide_eq_true ?_
  exact hp _ (h.nameTokens_sublist.subset (List.mem_map_of_mem hc))

theorem IsRule.nameTokens_sublist {rule : Rule} (h : IsRule clock tokens next rule)
    (hp : ∀ token ∈ tokens, token.2 ≠ .implied) :
    (rule.block = Block.printLine ∨ rule.block.written = rule.block) ∧
      (rule.block.written.map Command.nameToken).Sublist tokens := by
  cases h with
  | block hb =>
    exact ⟨.inr (hb.written_eq hp), (List.filter_sublist.map _).trans hb.nameTokens_sublist⟩
  | selection => exact ⟨.inl rfl, List.nil_sublist _⟩
  | both _ hb =>
    refine ⟨.inr (hb.written_eq fun token ht => hp token (List.mem_append_right _ ht)), ?_⟩
    exact ((List.filter_sublist.map _).trans hb.nameTokens_sublist).trans
      (List.sublist_append_right _ _)

theorem IsRules.nameTokens_sublist {program : Program} (h : IsRules clock tokens program)
    (hp : ∀ token ∈ tokens, token.2 ≠ .implied) :
    (∀ rule ∈ program, rule.block = Block.printLine ∨ rule.block.written = rule.block) ∧
      (program.flatMap fun rule => rule.block.written.map Command.nameToken).Sublist tokens := by
  induction h with
  | none => exact ⟨nofun, .slnil⟩
  | more hr _ _ ih =>
    simp only [List.mem_append, or_imp, forall_and] at hp
    obtain ⟨hrule, hnames⟩ := hr.nameTokens_sublist hp.1
    obtain ⟨hrules, hmore⟩ := ih hp.2.2
    refine ⟨?_, hnames.append (hmore.trans (List.sublist_append_right _ _))⟩
    rintro rule (_ | ⟨_, hmem⟩)
    · exact hrule
    · exact hrules rule hmem

end Grammar

/-- The commands of a program in their script. -/
structure Located (stream : TokenStream) (program : Program) : Prop where
  /-- A rule prints the line, at no place, or its commands are all written. -/
  blocks : ∀ rule ∈ program, rule.block = Block.printLine ∨ rule.block.written = rule.block
  /-- The written commands have the places of their names, one after another. -/
  names : (program.flatMap fun rule => rule.block.written.map Command.nameToken).Sublist
    stream.placed
  /-- A command that fails shows its own name and place, and is written. -/
  raises : ∀ rule ∈ program, ∀ command ∈ rule.block, ∀ env cause,
    command.text env = .error cause →
      cause = .unknownCommand command.name command.place ∧ command ∈ rule.block.written
  /-- So does the block that it stops. -/
  stops : ∀ rule ∈ program, ∀ output env cause, (rule.block.run output env).failure = some cause →
    cause = .closedOutput ∨
      ∃ command ∈ rule.block.written, cause = .unknownCommand command.name command.place

theorem Tiled.place_ne_implied {cursor : Cursor} {before last tail : Text}
    {lexemes : List Lexeme} (h : Tiled cursor before lexemes last tail) :
    ∀ token ∈ (TokenStream.ofCursor cursor).placed, token.2 ≠ .implied := by
  rw [h.placed]
  intro token ht
  obtain ⟨i, hi, rfl⟩ := List.mem_mapIdx.mp ht
  intro heq
  exact absurd (congrArg Position.line heq) (Nat.succ_ne_zero _)

/-- The block that is not written cannot fail: there is a command of that name. -/
theorem Rule.Meaningful.raises {rule : Rule} (h : rule.Meaningful)
    (hb : rule.block = Block.printLine ∨ rule.block.written = rule.block) {command : Command}
    (hc : command ∈ rule.block) {env : Environment} {cause : EvalError}
    (hcause : command.text env = .error cause) :
    cause = .unknownCommand command.name command.place ∧ command ∈ rule.block.written := by
  obtain ⟨⟨-, hname⟩, heq⟩ :=
    Command.unknown_of_text_eq_error (fun e he => h.params command hc e he env) hcause
  refine ⟨heq, ?_⟩
  rcases hb with hblock | hwritten
  · rw [hblock] at hc
    obtain rfl := List.mem_singleton.mp hc
    exact absurd rfl hname
  · rwa [hwritten]

namespace Program

theorem located {clock : Clock} {script : Text} {program : Program}
    (h : ofScript clock script = .ok program) : Located (.ofScript script) program := by
  obtain ⟨lexemes, last, tail, htiled⟩ : ∃ lexemes last tail,
      Tiled (.ofScript script) [] lexemes last tail := Cursor.exists_tiled _ rfl
  have hmeaningful := meaningful_of_ofScript h
  obtain ⟨_, place, hstream, ht⟩ := read_sound h
  obtain @⟨gap, tokens, _, -, hr⟩ := ht
  have hplaced : (TokenStream.ofScript script).placed = gap ++ tokens := by
    simp [hstream, placed_behind, placed]
  have hplaces : ∀ token ∈ tokens, token.2 ≠ .implied := fun token ht =>
    htiled.place_ne_implied token (hplaced ▸ List.mem_append_right gap ht)
  obtain ⟨hblocks, hnames⟩ := hr.nameTokens_sublist hplaces
  refine ⟨hblocks, hplaced ▸ hnames.trans (List.sublist_append_right gap tokens), ?_, ?_⟩
  · intro rule hrule command hc env cause
    exact (hmeaningful rule hrule).raises (hblocks rule hrule) hc
  · intro rule hrule output env cause hcause
    rcases Block.cause_of_run hcause with ⟨command, hc, htext⟩ | ⟨hclosed, -⟩
    · obtain ⟨heq, hwritten⟩ := (hmeaningful rule hrule).raises (hblocks rule hrule) hc htext
      exact .inr ⟨command, hwritten, heq⟩
    · exact .inl hclosed

/-- A script that is no program has an error at the start of the token that it is
about; the commands of one that is a program have the places of their names. -/
theorem ofScript_places (clock : Clock) (script : Text) :
    (∀ error, ofScript clock script = .error error → Diagnosed clock script error) ∧
      ∀ program, ofScript clock script = .ok program → Located (.ofScript script) program :=
  ⟨fun _ => diagnosed, fun _ => located⟩

/-- A range is blamed where its first operand begins. -/
example : (match ofScript ⟨0, 0, .utc⟩ "/x/;\n 1 < 2 > 3".toList with
    | .error error => error.place
    | .ok _ => .implied) = ⟨2, 2⟩ := by
  decide +kernel

end Program

end LineFilter
