import LineFilter.Program.Reader

/-!
# The grammar of scripts

Relations between tokens and what they mean, apart from any way of reading
them. Where two derivations would compete, the longer one is meant: an operator
behind an operand belongs to its comparison, a bracket behind a reference to
its slice and a brace behind a selection to its rule. So a phrase that could go
on is one only in front of a token that does not carry it on; `next` is that
token, `none` at the end of the script.
-/

namespace LineFilter.Grammar

/-- A token and where it stands. -/
abbrev Placed := Token × Position

/-- The first of some tokens. -/
def first (tokens : List Placed) : Option Token := tokens.head?.map Prod.fst

/-- A token that carries a comparison on. -/
def Compares (next : Option Token) : Prop := ∃ op, next = some (.operator op)

def Semicolons (tokens : List Placed) : Prop := ∀ token ∈ tokens, token.1 = .mark .semicolon

theorem semicolons_nil : Semicolons [] := by
  intro token h
  cases h

-- ---------------------------------------------------------------------------
-- Operands
-- ---------------------------------------------------------------------------

inductive IsBound : List Placed → Option Int → Prop
  | absent : IsBound [] none
  | present {word n place} : IntegerLiteral.read? word = some n →
      IsBound [(.number word, place)] (some n)

/-- Columns, variables and keywords: what a slice can be taken of. -/
inductive IsReference : Token → Value → Prop
  | column {name} : IsReference (.column name) (.variable name)
  | name {name} : IsReference (.identifier name) (.ofName name)

inductive IsLiteral (clock : Clock) : Token → Value → Prop
  | string {raw text} : IsLiteral clock (.string raw text) (.string raw text)
  | pattern {source v} : Value.ofPattern source = .ok v → IsLiteral clock (.regex source) v
  | number {word v} : Value.ofNumber clock word = .ok v → IsLiteral clock (.number word) v

inductive IsOperand (clock : Clock) : List Placed → Option Token → Expr → Prop
  | literal {token place next v} : IsLiteral clock token v →
      IsOperand clock [(token, place)] next (.value v)
  | reference {token place next v} : IsReference token v → next ≠ some (.mark .openBracket) →
      IsOperand clock [(token, place)] next (.value v)
  | slice {token place next v starts stops start stop p q r} : IsReference token v →
      IsBound starts start → IsBound stops stop →
      IsOperand clock
        ((token, place) :: (.mark .openBracket, p) ::
          (starts ++ (.mark .colon, q) :: (stops ++ [(.mark .closeBracket, r)])))
        next (.slice (.value v) start stop)

/-- Only a bracket changes what an operand in front of it is. -/
theorem IsOperand.before {clock : Clock} {tokens : List Placed} {next after : Option Token}
    {e : Expr} (h : IsOperand clock tokens next e) (ha : after ≠ some (.mark .openBracket)) :
    IsOperand clock tokens after e := by
  cases h with
  | literal hl => exact .literal hl
  | reference hr _ => exact .reference hr ha
  | slice hr hstarts hstops => exact .slice hr hstarts hstops

-- ---------------------------------------------------------------------------
-- Selections and parameters
-- ---------------------------------------------------------------------------

/-- Parentheses leave no trace, and a missing left side is the whole line. -/
inductive IsSelection (clock : Clock) : List Placed → Option Token → Expr → Prop
  | not {tokens next e p} : IsSelection clock tokens next e →
      IsSelection clock ((.mark .bang, p) :: tokens) next (.not e)
  | parentheses {tokens next e p q} : IsSelection clock tokens (some (.mark .closeParen)) e →
      IsSelection clock ((.mark .openParen, p) :: (tokens ++ [(.mark .closeParen, q)])) next e
  | againstLine {tokens next op e p} : IsOperand clock tokens next e →
      IsSelection clock ((.operator op, p) :: tokens) next (.againstLine op e)
  | pattern {source v next p} : Value.ofPattern source = .ok v → ¬ Compares next →
      IsSelection clock [(.regex source, p)] next (.againstLine .equal (.value v))
  | comparison {lefts rights next left op right p} :
      IsOperand clock lefts (some (.operator op)) left → IsOperand clock rights next right →
      ¬ Compares next →
      IsSelection clock (lefts ++ (.operator op, p) :: rights) next (.compare left op right)
  | range {lefts middles rights next left middle right slope lower upper p q} :
      IsOperand clock lefts (some (.operator (slope.operator lower))) left →
      IsOperand clock middles (some (.operator (slope.operator upper))) middle →
      IsOperand clock rights next right →
      IsSelection clock
        (lefts ++ (.operator (slope.operator lower), p) ::
          (middles ++ (.operator (slope.operator upper), q) :: rights))
        next (.between slope left lower middle upper right)

inductive IsParam (clock : Clock) : List Placed → Option Token → Expr → Prop
  | operand {tokens next e} : IsOperand clock tokens next e → ¬ Compares next →
      IsParam clock tokens next e
  | comparison {lefts rights next left op right p} :
      IsOperand clock lefts (some (.operator op)) left → IsOperand clock rights next right →
      IsParam clock (lefts ++ (.operator op, p) :: rights) next (.compare left op right)

/-- Parameters with commas between them, in front of the closing parenthesis. -/
inductive IsParams (clock : Clock) : List Placed → List Expr → Prop
  | one {tokens e} : IsParam clock tokens (some (.mark .closeParen)) e → IsParams clock tokens [e]
  | more {tokens rest e es p} : IsParam clock tokens (some (.mark .comma)) e →
      IsParams clock rest es → IsParams clock (tokens ++ (.mark .comma, p) :: rest) (e :: es)

-- ---------------------------------------------------------------------------
-- Commands, rules and programs
-- ---------------------------------------------------------------------------

inductive IsCommand (clock : Clock) : List Placed → Command → Prop
  | bare {name place p q} :
      IsCommand clock
        [(.identifier name, place), (.mark .openParen, p), (.mark .closeParen, q)]
        ⟨name, [], place⟩
  | call {tokens name place params p q} : IsParams clock tokens params →
      IsCommand clock
        ((.identifier name, place) :: (.mark .openParen, p) ::
          (tokens ++ [(.mark .closeParen, q)]))
        ⟨name, params, place⟩

inductive IsCommands (clock : Clock) : List Placed → Block → Prop
  | none : IsCommands clock [] []
  | more {tokens gap rest command commands} : IsCommand clock tokens command → Semicolons gap →
      IsCommands clock rest commands →
      IsCommands clock (tokens ++ (gap ++ rest)) (command :: commands)

inductive IsBlock (clock : Clock) : List Placed → Block → Prop
  | braces {gap tokens block p q} : Semicolons gap → IsCommands clock tokens block →
      IsBlock clock ((.mark .openBrace, p) :: (gap ++ (tokens ++ [(.mark .closeBrace, q)]))) block

/-- A rule without a block prints the line. -/
inductive IsRule (clock : Clock) : List Placed → Option Token → Rule → Prop
  | block {tokens next block} : IsBlock clock tokens block →
      IsRule clock tokens next ⟨none, block⟩
  | selection {tokens next e} : IsSelection clock tokens next e →
      next ≠ some (.mark .openBrace) → IsRule clock tokens next ⟨some e, Block.printLine⟩
  | both {tokens rest next e block} : IsSelection clock tokens (some (.mark .openBrace)) e →
      IsBlock clock rest block → IsRule clock (tokens ++ rest) next ⟨some e, block⟩

inductive IsRules (clock : Clock) : List Placed → Program → Prop
  | none : IsRules clock [] []
  | more {tokens gap rest rule rules} : IsRule clock tokens (first (gap ++ rest)) rule →
      Semicolons gap → IsRules clock rest rules →
      IsRules clock (tokens ++ (gap ++ rest)) (rule :: rules)

inductive IsProgram (clock : Clock) : List Placed → Program → Prop
  | rules {gap tokens program} : Semicolons gap → IsRules clock tokens program →
      IsProgram clock (gap ++ tokens) program

end LineFilter.Grammar
