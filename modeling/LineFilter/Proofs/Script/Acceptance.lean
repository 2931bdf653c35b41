import LineFilter.Proofs.Script.Complete

/-!
# Scripts and the grammar

A script is read as a program exactly if all of it is tokens and these derive
the program. Of the errors that a range can have, scripts only meet operators
that point different ways: both halves are read around one middle operand.
-/

namespace LineFilter

open Grammar TokenStream

-- ---------------------------------------------------------------------------
-- Ranges in scripts share their middle operand
-- ---------------------------------------------------------------------------

/-- Not the error of two comparisons without a common middle. -/
def ScriptError.SharesMiddle (error : ScriptError) : Prop :=
  ∀ lower upper place, error ≠ .range (.noSharedOperand lower upper) place

/-- All that goes wrong in a reader has a property. -/
def FailsOnly {α : Type} (P : ScriptError → Prop) (result : Except ScriptError α) : Prop :=
  ∀ error, result = .error error → P error

section
variable {P : ScriptError → Prop} {α β : Type}

theorem failsOnly_ok (a : α) : FailsOnly P (.ok a) := fun _ h => nomatch h

theorem failsOnly_error {error : ScriptError} (h : P error) :
    FailsOnly P (.error error : Except ScriptError α) := by
  rintro _ ⟨⟩
  exact h

theorem FailsOnly.bind {x : Except ScriptError α} {f : α → Except ScriptError β}
    (hx : FailsOnly P x) (hf : ∀ a, FailsOnly P (f a)) : FailsOnly P (x >>= f) := by
  cases x with
  | error error => exact failsOnly_error (hx error rfl)
  | ok a => exact hf a

end

variable {clock : Clock}

theorem TokenStream.refuse_sharesMiddle (stream : TokenStream)
    (fault : Option Token → SyntaxFault) : (stream.refuse fault).SharesMiddle := by
  cases stream <;> exact nofun

theorem TokenStream.ready_fails (stream : TokenStream) :
    FailsOnly ScriptError.SharesMiddle stream.ready := by
  cases stream with
  | fault => exact failsOnly_error nofun
  | _ => exact failsOnly_ok _

theorem TokenStream.expect_fails (mark : Mark) (stream : TokenStream) :
    FailsOnly ScriptError.SharesMiddle (stream.expect mark) := by
  unfold expect
  split
  · split
    · exact ready_fails _
    · exact failsOnly_error (refuse_sharesMiddle _ _)
  · exact failsOnly_error (refuse_sharesMiddle _ _)

namespace Expr

theorem readBound_fails (stream : TokenStream) :
    FailsOnly ScriptError.SharesMiddle (readBound stream) := by
  unfold readBound
  split
  · split
    · exact (ready_fails _).bind fun _ => failsOnly_ok _
    · exact failsOnly_error nofun
  · exact failsOnly_ok _

theorem readSlice_fails (operand : Expr) (stream : TokenStream) :
    FailsOnly ScriptError.SharesMiddle (readSlice operand stream) := by
  unfold readSlice
  split
  · refine (ready_fails _).bind fun _ => (readBound_fails _).bind fun _ => ?_
    refine (expect_fails _ _).bind fun _ => (readBound_fails _).bind fun _ => ?_
    exact (expect_fails _ _).bind fun _ => failsOnly_ok _
  · exact (ready_fails _).bind fun _ => failsOnly_ok _

theorem readLiteral_fails (literal : Except ValueError Value) (place : Position)
    (stream : TokenStream) :
    FailsOnly ScriptError.SharesMiddle (readLiteral literal place stream) := by
  refine (ready_fails _).bind fun _ => ?_
  split
  · exact failsOnly_ok _
  · exact failsOnly_error nofun

theorem readOperand_fails (stream : TokenStream) :
    FailsOnly ScriptError.SharesMiddle (readOperand clock stream) := by
  unfold readOperand
  split
  · exact readSlice_fails _ _
  · exact readSlice_fails _ _
  · exact readLiteral_fails _ _ _
  · exact readLiteral_fails _ _ _
  · exact readLiteral_fails _ _ _
  · exact failsOnly_error (refuse_sharesMiddle _ _)

theorem readComparison_fails (stream : TokenStream) :
    FailsOnly ScriptError.SharesMiddle (readComparison clock stream) := by
  refine (readOperand_fails _).bind fun _ => ?_
  dsimp only
  split
  · refine (readOperand_fails _).bind fun _ => ?_
    split
    · refine (readOperand_fails _).bind fun _ => ?_
      split
      · exact failsOnly_ok _
      · rename_i he
        refine failsOnly_error ?_
        rintro lower upper place ⟨⟩
        exact Comparison.range_ne_noSharedOperand lower upper he
    · exact failsOnly_ok _
  · split
    · exact failsOnly_ok _
    · exact failsOnly_error nofun

theorem readSelection_fails (stream : TokenStream) :
    FailsOnly ScriptError.SharesMiddle (readSelection clock stream) := by
  fun_induction readSelection clock stream with
  | case1 _ _ ih => exact ih.bind fun _ => failsOnly_ok _
  | case2 _ _ ih => exact ih.bind fun _ => (expect_fails _ _).bind fun _ => failsOnly_ok _
  | case3 => exact (readOperand_fails _).bind fun _ => failsOnly_ok _
  | case4 => exact readComparison_fails _

theorem readParam_fails (stream : TokenStream) :
    FailsOnly ScriptError.SharesMiddle (readParam clock stream) := by
  refine (readOperand_fails _).bind fun _ => ?_
  dsimp only
  split
  · exact (readOperand_fails _).bind fun _ => failsOnly_ok _
  · exact failsOnly_ok _

end Expr

namespace Command

theorem readParams_fails (stream : TokenStream) :
    FailsOnly ScriptError.SharesMiddle (readParams clock stream) := by
  fun_induction readParams clock stream with
  | case1 stream error h => exact failsOnly_error (Expr.readParam_fails stream error h)
  | case2 _ _ _ _ _ ih => exact ih.bind fun _ => failsOnly_ok _
  | case3 => exact failsOnly_ok _

theorem read_fails (stream : TokenStream) :
    FailsOnly ScriptError.SharesMiddle (read clock stream) := by
  unfold read
  split
  · refine (expect_fails _ _).bind fun _ => FailsOnly.bind ?_ fun _ => failsOnly_ok _
    unfold readCall
    split
    · exact (ready_fails _).bind fun _ => failsOnly_ok _
    · exact (readParams_fails _).bind fun _ => (expect_fails _ _).bind fun _ => failsOnly_ok _
  · exact failsOnly_error (refuse_sharesMiddle _ _)

end Command

theorem Block.readCommands_fails (stream : TokenStream) :
    FailsOnly ScriptError.SharesMiddle (readCommands clock stream) := by
  fun_induction readCommands clock stream with
  | case1 => exact (ready_fails _).bind fun _ => failsOnly_ok _
  | case2 _ error _ h => exact failsOnly_error (Command.read_fails _ error h)
  | case3 _ _ _ _ _ ih => exact ih.bind fun _ => failsOnly_ok _

theorem Rule.read_fails (stream : TokenStream) :
    FailsOnly ScriptError.SharesMiddle (read clock stream) := by
  unfold read
  split
  · exact (Block.readCommands_fails _).bind fun _ => failsOnly_ok _
  · refine (Expr.readSelection_fails _).bind fun _ => FailsOnly.bind ?_ fun _ => failsOnly_ok _
    unfold Block.read
    split
    · exact Block.readCommands_fails _
    · exact failsOnly_ok _

theorem Program.read_fails (stream : TokenStream) :
    FailsOnly ScriptError.SharesMiddle (read clock stream) := by
  fun_induction read clock stream with
  | case1 => exact failsOnly_ok _
  | case2 _ error _ h => exact failsOnly_error (Rule.read_fails _ error h)
  | case3 _ _ _ _ _ ih => exact ih.bind fun _ => failsOnly_ok _

-- ---------------------------------------------------------------------------
-- Acceptance
-- ---------------------------------------------------------------------------

theorem tokenize_eq_ok {script : Text} {tokens : List Token} :
    tokenize script = .ok tokens ↔ (∃ place, (TokenStream.ofScript script).ending = .ok place) ∧
      (TokenStream.ofScript script).placed.map Prod.fst = tokens := by
  rw [map_fst_placed]
  cases h : (TokenStream.ofScript script).ending <;> simp [tokenize, h, Except.map]

/-- Reading decides the grammar: a script means a program exactly if its tokens
derive that program, the places of its commands included. -/
theorem ofScript_iff_isProgram (clock : Clock) (script : Text) :
    (∀ program, Program.ofScript clock script = .ok program ↔
      ∃ tokens, tokenize script = .ok (tokens.map Prod.fst) ∧
        tokens = (TokenStream.ofScript script).placed ∧ IsProgram clock tokens program) ∧
    ∀ error, Program.ofScript clock script = .error error → error.SharesMiddle := by
  refine ⟨fun program => ⟨fun h => ?_, ?_⟩, Program.read_fails _⟩
  · obtain ⟨tokens, place, hstream, ht⟩ := Program.read_sound h
    have hplaced : tokens = (TokenStream.ofScript script).placed := by
      simp [hstream, placed_behind, placed]
    refine ⟨tokens, tokenize_eq_ok.mpr ⟨⟨place, ?_⟩, by rw [hplaced]⟩, hplaced, ht⟩
    rw [hstream, ending_behind]
  · rintro ⟨tokens, htokens, rfl, ht⟩
    obtain ⟨⟨place, hending⟩, -⟩ := tokenize_eq_ok.mp htokens
    rw [Program.ofScript, eq_behind_of_ending hending]
    exact Program.read_complete ht place

end LineFilter
