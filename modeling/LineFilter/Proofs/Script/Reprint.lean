import LineFilter.Proofs.Script.Complete
import LineFilter.Proofs.Script.Sound
import LineFilter.Proofs.Script.Spelling

/-!
# Printed programs

A program is printed as a script in which nothing is left out: every comparison
has its left side, every rule its block and every negation its parentheses.
From the tokens of a script follow those of the printed program, phrase by
phrase, and they mean the same. Patterns are printed without escapes, so those
with a slash are left aside.
-/

namespace LineFilter

-- ---------------------------------------------------------------------------
-- Patterns of a program
-- ---------------------------------------------------------------------------

def Value.pattern? : Value → Option Pattern
  | .regexp p => some p
  | _ => none

def Expr.patterns : Expr → List Pattern
  | .value v => v.pattern?.toList
  | .compare left _ right => left.patterns ++ right.patterns
  | .between _ left _ middle _ right => left.patterns ++ middle.patterns ++ right.patterns
  | .not inner => inner.patterns
  | .slice operand _ _ => operand.patterns

def Command.patterns (c : Command) : List Pattern := c.params.flatMap Expr.patterns

def Rule.patterns (rule : Rule) : List Pattern :=
  rule.selection.toList.flatMap Expr.patterns ++ rule.block.flatMap Command.patterns

/-- The patterns that a program is written with. -/
def Program.patterns (program : Program) : List Pattern := program.flatMap Rule.patterns

/-- Patterns that print as they were written. -/
def Slashless (patterns : List Pattern) : Prop := ∀ p ∈ patterns, '/' ∉ p.source

@[simp] theorem slashless_append {left right : List Pattern} :
    Slashless (left ++ right) ↔ Slashless left ∧ Slashless right := by
  simp only [Slashless, List.mem_append, or_imp, forall_and]

namespace Grammar

/-- Tokens that are printed as they were read, but for patterns with a slash. -/
def Printable (tokens : List Placed) : Prop := ∀ t ∈ tokens, t.1.Plain → t.1.Prints

@[simp] theorem printable_cons {t : Placed} {tokens : List Placed} :
    Printable (t :: tokens) ↔ (t.1.Plain → t.1.Prints) ∧ Printable tokens := by
  simp [Printable]

@[simp] theorem printable_append {left right : List Placed} :
    Printable (left ++ right) ↔ Printable left ∧ Printable right := by
  simp only [Printable, List.mem_append, or_imp, forall_and]

variable {clock : Clock} {tokens : List Placed} {next : Option Token} {e : Expr}

-- ---------------------------------------------------------------------------
-- Operands
-- ---------------------------------------------------------------------------

theorem IsReference.describe_eq {token : Token} {v : Value} (h : IsReference token v) :
    token.Plain ∧ v.describe = token.written := by
  cases h with
  | column => exact ⟨nofun, rfl⟩
  | @name name =>
    refine ⟨nofun, ?_⟩
    unfold Value.ofName
    cases hk : Keyword.ofName? name with
    | none => rfl
    | some k =>
      have hname := List.find?_some hk
      exact of_decide_eq_true hname

theorem describe_of_ofNumber {word : Text} {v : Value} (h : Value.ofNumber clock word = .ok v) :
    v.describe = word := by
  unfold Value.ofNumber Value.ofInteger Value.ofDecimal Value.ofDate at h
  grind [Value.describe, Value.raw]

theorem IsLiteral.describe_eq {token : Token} {v : Value} (h : IsLiteral clock token v)
    (hs : Slashless v.pattern?.toList) : token.Plain ∧ v.describe = token.written := by
  cases h with
  | string => exact ⟨nofun, rfl⟩
  | number hv => exact ⟨nofun, describe_of_ofNumber hv⟩
  | @pattern source _ hv =>
    obtain ⟨p, hp, rfl⟩ := Value.ofPattern_eq_ok.mp hv
    obtain rfl := Pattern.source_of_ofSource? hp
    refine ⟨?_, rfl⟩
    rintro q h
    cases h
    exact hs p (by simp [Value.pattern?])

/-- What stands behind one end of a slice. -/
def EndsBound (rest : Text) : Prop := ∃ c ∈ [':', ']'], rest.head? = some c

theorem endsBefore_of_endsBound {rest : Text} (h : EndsBound rest) (n : Int) :
    (Token.number (Text.ofInt n)).endsBefore rest := by
  obtain ⟨c, hc, hrest⟩ := h
  cases rest with
  | nil => cases hrest
  | cons d rest =>
    cases hrest
    have hends : c.isAlphanum = false ∧ c ≠ '_' ∧ c ≠ '.' ∧ c ≠ '-' := by
      simp only [List.mem_cons, List.not_mem_nil, or_false] at hc
      rcases hc with rfl | rfl <;> decide
    rw [Token.endsBefore, Token.contains_T_ofInt]
    simp [Token.endsNumber, Token.continuesNumber, hends]

theorem IsBound.reprinted {bound : Option Int} (h : IsBound tokens bound) :
    Spells EndsBound (Expr.describeBound bound) (IsBound · bound) := by
  cases h with
  | absent => exact Spells.nil.imp fun _ h => h ▸ .absent
  | @present word n _ hn =>
    refine ((Spells.token (Token.prints_ofInt n)).before ?_).imp ?_
    · intro rest hr
      exact endsBefore_of_endsBound hr n
    · rintro _ ⟨p, rfl⟩
      exact .present (IntegerLiteral.read?_ofInt (IntegerLiteral.fits_of_read? hn))

/-- A printed operand is that operand, unless a bracket makes a slice of it. -/
def OperandPrints (clock : Clock) (e : Expr) : Prop :=
  Spells Delimited e.describe fun again =>
    ∀ next, next ≠ some (.mark .openBracket) → IsOperand clock again next e

theorem operandPrints_wholeLine : OperandPrints clock .wholeLine := by
  refine (Spells.word Token.prints_wholeLine).imp ?_
  rintro _ ⟨p, rfl⟩ next hn
  exact .reference .column hn

theorem IsOperand.reprinted (h : IsOperand clock tokens next e) (ht : Printable tokens)
    (hs : Slashless e.patterns) : OperandPrints clock e := by
  cases h with
  | literal hl =>
    obtain ⟨hplain, hw⟩ := hl.describe_eq hs
    rw [OperandPrints, Expr.describe, hw]
    refine (Spells.word ((printable_cons.mp ht).1 hplain)).imp ?_
    rintro _ ⟨p, rfl⟩ next -
    exact .literal hl
  | reference hr =>
    obtain ⟨hplain, hw⟩ := hr.describe_eq
    rw [OperandPrints, Expr.describe, hw]
    refine (Spells.word ((printable_cons.mp ht).1 hplain)).imp ?_
    rintro _ ⟨p, rfl⟩ next hn
    exact .reference hr hn
  | slice hr hstarts hstops =>
    obtain ⟨hplain, hw⟩ := hr.describe_eq
    simp only [OperandPrints, Expr.describe, hw, List.append_assoc, List.cons_append]
    have hword := Spells.word ((printable_cons.mp ht).1 hplain)
    have hclose : Spells Delimited [']'] _ := .closing .closeBracket (by decide)
    have hstop := hstops.reprinted.append hclose fun _ _ => ⟨']', by simp, rfl⟩
    have hcolon : Spells Delimited (':' :: _) _ := .mark .colon (by decide) hstop
    have hstart := hstarts.reprinted.append hcolon fun _ _ => ⟨':', by simp, rfl⟩
    have hopen : Spells Delimited ('[' :: _) _ := .mark .openBracket (by decide) hstart
    refine (hword.followed (by simp) hopen).imp ?_
    rintro _ ⟨_, _, rfl, ⟨_, rfl⟩, _, _, rfl, as, _, rfl, has, _, _, rfl, bs, _, rfl, hbs, _, rfl⟩
      next -
    exact .slice hr has hbs

-- ---------------------------------------------------------------------------
-- Selections and parameters
-- ---------------------------------------------------------------------------

/-- The token in front of which every operand and comparison ends. -/
def Closes (next : Option Token) : Prop := ¬ Compares next ∧ next ≠ some (.mark .openBracket)

theorem closes_mark {m : Mark} (hm : m ≠ .openBracket) : Closes (some (.mark m)) := by
  refine ⟨?_, ?_⟩
  · rintro ⟨op, h⟩
    cases h
  · rintro h
    cases h
    exact hm rfl

/-- A printed comparison, between operands as they are printed. -/
theorem spells_compare {left right : Expr} (hl : OperandPrints clock left) (op : Operator)
    (hr : OperandPrints clock right) :
    Spells Delimited (Expr.compare left op right).describe fun again =>
      ∃ ls p rs, again = ls ++ (.operator op, p) :: rs ∧
        IsOperand clock ls (some (.operator op)) left ∧
        ∀ next, next ≠ some (.mark .openBracket) → IsOperand clock rs next right := by
  simp only [Expr.describe, List.append_assoc, List.cons_append]
  refine (Spells.operation hl op hr).imp ?_
  rintro _ ⟨ls, p, rs, rfl, hls, hrs⟩
  exact ⟨ls, p, rs, rfl, hls _ (by simp), hrs⟩

theorem IsSelection.reprinted (h : IsSelection clock tokens next e) (ht : Printable tokens)
    (hs : Slashless e.patterns) :
    Spells Delimited e.describe fun again =>
      ∀ next, Closes next → IsSelection clock again next e := by
  induction h with
  | not _ ih =>
    -- The parentheses are new, and leave no trace.
    have hinner := ih (printable_cons.mp ht).2 hs
    have hpair : Spells Delimited ('(' :: _) _ := hinner.parentheses
    refine Spells.imp ((Spells.word (Token.prints_mark .bang)).followed (by simp) hpair) ?_
    rintro _ ⟨_, _, rfl, ⟨_, rfl⟩, _, again, _, rfl, hi⟩ next -
    exact .not (.parentheses (hi _ (closes_mark (by decide))))
  | parentheses _ ih => exact ih (by simp_all) hs
  | againstLine ho =>
    -- The left side is spelled out, here and for a bare pattern.
    have hs := (slashless_append.mp hs).2
    have hright := ho.reprinted (printable_cons.mp ht).2 hs
    refine (spells_compare operandPrints_wholeLine _ hright).imp ?_
    rintro _ ⟨ls, p, rs, rfl, hls, hrs⟩ next hn
    exact .comparison hls (hrs next hn.2) hn.1
  | @pattern source v next p hv hc =>
    have hs := (slashless_append.mp hs).2
    have hoperand : IsOperand clock [(.regex source, p)] next (.value v) := .literal (.pattern hv)
    refine (spells_compare operandPrints_wholeLine _ (hoperand.reprinted ht hs)).imp ?_
    rintro _ ⟨ls, p, rs, rfl, hls, hrs⟩ next hn
    exact .comparison hls (hrs next hn.2) hn.1
  | comparison hl hr hc =>
    obtain ⟨hsl, hsr⟩ := slashless_append.mp hs
    simp only [printable_append, printable_cons] at ht
    refine (spells_compare (hl.reprinted ht.1 hsl) _ (hr.reprinted ht.2.2 hsr)).imp ?_
    rintro _ ⟨ls, p, rs, rfl, hls, hrs⟩ next hn
    exact .comparison hls (hrs next hn.2) hn.1
  | @range _ _ _ _ left middle right slope lower upper _ _ hl hm hr =>
    obtain ⟨hs, hsr⟩ := slashless_append.mp hs
    obtain ⟨hsl, hsm⟩ := slashless_append.mp hs
    simp only [printable_append, printable_cons] at ht
    have hupper := Spells.operation (hm.reprinted ht.2.2.1 hsm) (slope.operator upper)
      (hr.reprinted ht.2.2.2.2 hsr)
    have hrange := Spells.operation (hl.reprinted ht.1 hsl) (slope.operator lower) hupper
    simp only [Expr.describe, List.append_assoc, List.cons_append]
    refine hrange.imp ?_
    rintro _ ⟨ls, p, _, rfl, hls, ms, q, rs, rfl, hms, hrs⟩ next hn
    exact .range (hls _ (by simp)) (hms _ (by simp)) (hrs next hn.2)

theorem IsParam.reprinted (h : IsParam clock tokens next e) (ht : Printable tokens)
    (hs : Slashless e.patterns) :
    Spells Delimited e.describe fun again =>
      ∀ next, Closes next → IsParam clock again next e := by
  cases h with
  | operand ho =>
    refine (ho.reprinted ht hs).imp ?_
    intro again ha next hn
    exact .operand (ha next hn.2) hn.1
  | comparison hl hr =>
    obtain ⟨hsl, hsr⟩ := slashless_append.mp hs
    simp only [printable_append, printable_cons] at ht
    refine (spells_compare (hl.reprinted ht.1 hsl) _ (hr.reprinted ht.2.2 hsr)).imp ?_
    rintro _ ⟨ls, p, rs, rfl, hls, hrs⟩ next hn
    exact .comparison hls (hrs next hn.2)

theorem IsParams.ne_nil {params : List Expr} (h : IsParams clock tokens params) : params ≠ [] := by
  cases h <;> simp

theorem IsParams.reprinted {params : List Expr} (h : IsParams clock tokens params)
    (ht : Printable tokens) (hs : Slashless (params.flatMap Expr.patterns)) :
    Spells Delimited (Text.join ", ".toList (params.map Expr.describe))
      (IsParams clock · params) := by
  induction h with
  | @one tokens e hp =>
    have hs : Slashless e.patterns := by simpa using hs
    simp only [List.map_cons, List.map_nil, Text.join, List.intercalate_singleton]
    refine (hp.reprinted ht hs).imp ?_
    intro again ha
    exact .one (ha _ (closes_mark (by decide)))
  | @more tokens rest e es p hp hps ih =>
    obtain ⟨hse, hses⟩ := slashless_append.mp hs
    simp only [printable_append, printable_cons] at ht
    rw [List.map_cons, Text.join_cons (by simpa using hps.ne_nil)]
    have hcomma : Spells Delimited (',' :: _) _ := .mark .comma (by decide) (ih ht.2.2 hses).space
    refine ((hp.reprinted ht.1 hse).followed (by simp) hcomma).imp ?_
    rintro _ ⟨as, _, rfl, has, p, bs, rfl, hbs⟩
    exact .more (has _ (closes_mark (by decide))) hbs

-- ---------------------------------------------------------------------------
-- Commands and blocks
-- ---------------------------------------------------------------------------

theorem IsCommand.reprinted {c : Command} (h : IsCommand clock tokens c) (ht : Printable tokens)
    (hs : Slashless c.patterns) :
    Spells Anything c.describe fun again =>
      ∃ c', IsCommand clock again c' ∧ c'.withoutPlace = c.withoutPlace := by
  simp only [Command.describe, List.append_assoc, List.cons_append]
  cases h with
  | bare =>
    simp only [printable_cons] at ht
    have hparams : Spells Delimited (Text.join ", ".toList []) (· = []) := .nil
    have hname := Spells.word (ht.1 (Token.plain_identifier _))
    refine (hname.followed (by simp) hparams.parentheses).imp ?_
    rintro _ ⟨_, _, rfl, ⟨_, rfl⟩, _, _, _, rfl, rfl⟩
    exact ⟨_, .bare, rfl⟩
  | call hp =>
    simp only [printable_cons, printable_append] at ht
    have hparams := hp.reprinted ht.2.2.1 hs
    have hname := Spells.word (ht.1 (Token.plain_identifier _))
    refine (hname.followed (by simp) hparams.parentheses).imp ?_
    rintro _ ⟨_, _, rfl, ⟨_, rfl⟩, _, as, _, rfl, has⟩
    exact ⟨_, .call has, rfl⟩

theorem IsCommands.reprinted {block : Block} (h : IsCommands clock tokens block)
    (ht : Printable tokens) (hs : Slashless (block.flatMap Command.patterns)) :
    Spells Anything (Text.join "; ".toList (block.map Command.describe)) fun again =>
      ∃ block', IsCommands clock again block' ∧
        block'.map Command.withoutPlace = block.map Command.withoutPlace := by
  induction h with
  | none => exact Spells.nil.imp fun _ h => ⟨[], h ▸ .none, rfl⟩
  | @more tokens gap rest c commands hc hgap hcs ih =>
    obtain ⟨hsc, hss⟩ := slashless_append.mp hs
    simp only [printable_append] at ht
    have hcommand := hc.reprinted ht.1 hsc
    cases commands with
    | nil =>
      simp only [List.map_cons, List.map_nil, Text.join, List.intercalate_singleton]
      refine hcommand.imp ?_
      rintro again ⟨c', hc', hplace⟩
      have hone : IsCommands clock (again ++ ([] ++ [])) [c'] := .more hc' semicolons_nil .none
      exact ⟨[c'], by simpa using hone, by simp [hplace]⟩
    | cons d ds =>
      rw [List.map_cons, Text.join_cons (by simp)]
      have hrest := (ih ht.2.2 hss).space
      have hsemicolon : Spells Anything (';' :: _) _ := .mark .semicolon (by decide) hrest
      refine (hcommand.append hsemicolon fun _ _ => trivial).imp ?_
      rintro _ ⟨as, _, rfl, ⟨c', hc', hplace⟩, p, bs, rfl, block', hblock', hplaces⟩
      have hgap : Semicolons [(.mark .semicolon, p)] := by simp [Semicolons]
      refine ⟨c' :: block', .more hc' hgap hblock', ?_⟩
      rw [List.map_cons, List.map_cons, hplace, hplaces]

theorem IsBlock.reprinted {block : Block} (h : IsBlock clock tokens block) (ht : Printable tokens)
    (hs : Slashless (block.flatMap Command.patterns)) :
    Spells Anything (Block.describe block) fun again =>
      ∃ block', IsBlock clock again block' ∧
        block'.map Command.withoutPlace = block.map Command.withoutPlace := by
  cases h with
  | braces hgap hcs =>
    simp only [printable_cons, printable_append] at ht
    have hclose : Spells Anything ['\x7d'] _ := .closing .closeBrace (by decide)
    have hinner := (hcs.reprinted ht.2.2.1 hs).append hclose.space fun _ _ => trivial
    have hopen : Spells Anything ('\x7b' :: _) _ := .mark .openBrace (by decide) hinner.space
    refine Spells.imp hopen ?_
    rintro _ ⟨_, _, rfl, as, _, rfl, ⟨block', hblock', hplaces⟩, _, rfl⟩
    exact ⟨block', .braces semicolons_nil hblock', hplaces⟩

/-- The tokens of the block that a rule without one has. -/
def printLineTokens : List Placed :=
  [(.mark .openBrace, .implied), (.identifier "println".toList, .implied),
    (.mark .openParen, .implied), (.column "%0".toList, .implied), (.mark .closeParen, .implied),
    (.mark .closeBrace, .implied)]

theorem isBlock_printLine : IsBlock clock printLineTokens Block.printLine := by
  have hclose : Closes (some (.mark .closeParen)) := closes_mark (by decide)
  have hparams : IsParams clock [(.column "%0".toList, .implied)] [.wholeLine] :=
    .one (.operand (.reference .column hclose.2) hclose.1)
  have hcommand : IsCommand clock
      [(.identifier "println".toList, .implied), (.mark .openParen, .implied),
        (.column "%0".toList, .implied), (.mark .closeParen, .implied)]
      ⟨"println".toList, [.wholeLine], .implied⟩ := .call hparams
  exact .braces semicolons_nil (.more hcommand semicolons_nil .none)

theorem printable_printLine : Printable printLineTokens := by
  intro t ht _
  simp only [printLineTokens, List.mem_cons, List.not_mem_nil, or_false] at ht
  rcases ht with rfl | rfl | rfl | rfl | rfl | rfl
  · exact Token.prints_mark _
  · exact Token.prints_println
  · exact Token.prints_mark _
  · exact Token.prints_wholeLine
  · exact Token.prints_mark _
  · exact Token.prints_mark _

-- ---------------------------------------------------------------------------
-- Rules and programs
-- ---------------------------------------------------------------------------

/-- A printed rule is that rule, up to the places of its commands. -/
def RulePrints (clock : Clock) (rule : Rule) : Prop :=
  Spells Anything rule.describe fun again =>
    ∃ rule', (∀ next, IsRule clock again next rule') ∧ rule'.withoutPlaces = rule.withoutPlaces

theorem rulePrints_both {block : Block} {rest : List Placed}
    (hsel : IsSelection clock tokens next e) (hb : IsBlock clock rest block)
    (ht : Printable tokens) (hr : Printable rest) (hs : Slashless e.patterns)
    (hsb : Slashless (block.flatMap Command.patterns)) :
    RulePrints clock ⟨some e, block⟩ := by
  have hblock := (hb.reprinted hr hsb).space
  refine ((hsel.reprinted ht hs).followed (by simp) hblock).imp ?_
  rintro _ ⟨as, bs, rfl, has, block', hblock', hplaces⟩
  refine ⟨⟨some e, block'⟩, fun _ => .both (has _ (closes_mark (by decide))) hblock', ?_⟩
  simp only [Rule.withoutPlaces, hplaces]

theorem IsRule.reprinted {rule : Rule} (h : IsRule clock tokens next rule) (ht : Printable tokens)
    (hs : Slashless rule.patterns) : RulePrints clock rule := by
  obtain ⟨hsel, hblock⟩ := slashless_append.mp hs
  cases h with
  | block hb =>
    refine (hb.reprinted ht hblock).imp ?_
    rintro again ⟨block', hblock', hplaces⟩
    refine ⟨⟨none, block'⟩, fun _ => .block hblock', ?_⟩
    simp only [Rule.withoutPlaces, hplaces]
  | selection hselection _ =>
    -- The block that was left out is printed like any other.
    have hsel := (slashless_append.mp hsel).1
    exact rulePrints_both hselection isBlock_printLine ht printable_printLine hsel hblock
  | both hselection hb =>
    have hsel := (slashless_append.mp hsel).1
    simp only [printable_append] at ht
    exact rulePrints_both hselection hb ht.1 ht.2 hsel hblock

theorem IsRules.reprinted {program : Program} (h : IsRules clock tokens program)
    (ht : Printable tokens) (hs : Slashless program.patterns) :
    Spells Anything program.describe fun again =>
      ∃ program', IsRules clock again program' ∧
        program'.withoutPlaces = program.withoutPlaces := by
  induction h with
  | none => exact Spells.nil.imp fun _ h => ⟨[], h ▸ .none, rfl⟩
  | @more tokens gap rest rule rules hr _ hrs ih =>
    obtain ⟨hsr, hss⟩ := slashless_append.mp hs
    simp only [printable_append] at ht
    have hrule : RulePrints clock rule := hr.reprinted ht.1 hsr
    -- A line feed stands only between two rules.
    cases rules with
    | nil =>
      rw [Program.describe, List.map_cons, List.map_nil, Text.join, List.intercalate_singleton]
      refine Spells.imp hrule ?_
      rintro again ⟨rule', hrule', hplaces⟩
      have hone : IsRules clock (again ++ ([] ++ [])) [rule'] :=
        .more (hrule' _) semicolons_nil .none
      refine ⟨[rule'], by simpa using hone, ?_⟩
      simp only [Program.withoutPlaces, List.map_cons, hplaces, List.map_nil]
    | cons next rules =>
      rw [Program.describe, List.map_cons, Text.join_cons (by simp)]
      have hrest := (ih ht.2.2 hss).lineFeed
      refine (Spells.append hrule hrest fun _ _ => trivial).imp ?_
      rintro _ ⟨as, bs, rfl, ⟨rule', hrule', hplace⟩, program', hprogram', hplaces⟩
      refine ⟨rule' :: program', .more (hrule' _) semicolons_nil hprogram', ?_⟩
      rw [Program.withoutPlaces] at hplaces ⊢
      rw [List.map_cons, hplace, hplaces]
      rfl

end Grammar

/-- A printed program is read as that program: with every shorthand spelled out
it means the same, and only the places of its commands are new. -/
theorem Program.ofScript_describe {clock : Clock} {script : Text} {program : Program}
    (h : Program.ofScript clock script = .ok program)
    (hs : ∀ p ∈ program.patterns, '/' ∉ p.source) :
    ∃ again, Program.ofScript clock program.describe = .ok again ∧
      again.withoutPlaces = program.withoutPlaces := by
  obtain ⟨tokens, place, hstream, ht⟩ := Program.read_sound h
  have hprintable : Grammar.Printable tokens := by
    intro t hmem
    have hplaced : t ∈ (TokenStream.ofScript script).placed := by
      rw [hstream, TokenStream.placed_behind]
      exact List.mem_append_left _ hmem
    exact TokenStream.prints_of_mem_ofCursor hplaced
  cases ht with
  | rules hgap hrules =>
    have hrest := (Grammar.printable_append.mp hprintable).2
    obtain ⟨as, ⟨again, hagain, hplaces⟩, hspells⟩ := hrules.reprinted hrest hs .start
    refine ⟨again, ?_, hplaces⟩
    have hread := hspells [] trivial
    have hend : TokenStream.ofCursor ⟨[], Position.start.after program.describe⟩ = .finish _ :=
      TokenStream.ofCursor_finish rfl
    rw [List.append_nil, hend] at hread
    rw [Program.ofScript, TokenStream.ofScript, Cursor.ofScript, hread]
    exact Program.read_complete (.rules Grammar.semicolons_nil hagain) _

namespace Program

/-- A script that leaves out left sides and blocks. -/
def shorthands : Text := "/x/ !(%1[0x2:] < 5)\x7b;a()\x7d >= now".toList

/-- The same script in full. -/
def longhands : Text :=
  "%0 == /x/ \x7b println(%0) \x7d\n!(%1[2:] < 5) \x7b a() \x7d\n".toList ++
    "%0 >= now \x7b println(%0) \x7d".toList

theorem ofScript_describe_shorthands :
    ∃ program again, ofScript ⟨0, 0, .utc⟩ shorthands = .ok program ∧
      program.describe = longhands ∧ ofScript ⟨0, 0, .utc⟩ longhands = .ok again ∧
      again.withoutPlaces = program.withoutPlaces := by
  have hscript : (ofScript ⟨0, 0, .utc⟩ shorthands).toOption.any fun program =>
      program.describe = longhands ∧ ∀ p ∈ program.patterns, '/' ∉ p.source := by
    decide +kernel
  cases hp : ofScript ⟨0, 0, .utc⟩ shorthands with
  | error cause => simp [hp, Except.toOption] at hscript
  | ok program =>
    rw [hp] at hscript
    obtain ⟨hd, hs⟩ := of_decide_eq_true hscript
    obtain ⟨again, hagain, hplaces⟩ := ofScript_describe hp hs
    exact ⟨program, again, rfl, hd, hd ▸ hagain, hplaces⟩

end Program

end LineFilter
