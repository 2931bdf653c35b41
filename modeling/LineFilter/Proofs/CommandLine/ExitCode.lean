import LineFilter.CommandLine.Session
import LineFilter.Proofs.Run.Clean

/-!
# What an exit code tells

A session ends with 0 if its script could be read and understood and then, unless
only the script was to be looked at, the run on its inputs was clean. It ends with
1 in all other cases. Once the run has begun its output is kept, whatever the code.
-/

namespace LineFilter

namespace Arguments

/-- The script that arguments stand for, and the words that are left for inputs. -/
inductive Gives (entry : Text → Entry) (arguments : Arguments) : Text → List Text → Prop
  | expression {script} : arguments.expression = some script →
      Gives entry arguments script arguments.words
  | file {path octets script} : arguments.expression = .none → arguments.file = some path →
      entry path = .file octets → Utf8.decode? octets = some script →
      Gives entry arguments script arguments.words
  | word {script paths} : arguments.expression = .none → arguments.file = .none →
      arguments.words = script :: paths → Gives entry arguments script paths

/-- What a session runs on: the files under its paths, or what is piped into it. -/
def inputs (surroundings : Surroundings) (piped : Octets) : List Text → List Input
  | [] => [.octets piped]
  | path :: paths => (path :: paths).map (input surroundings)

variable {surroundings : Surroundings} {arguments : Arguments} {script path : Text}
  {paths : List Text} {program : Program} {piped : Octets}

-- ---------------------------------------------------------------------------
-- The script
-- ---------------------------------------------------------------------------

theorem Gives.exists_source (h : arguments.Gives surroundings.entry script paths) :
    ∃ source, arguments.source? = some (source, paths) ∧
      source.load surroundings.entry = .ok script := by
  cases h with
  | expression he =>
    refine ⟨.expression script, ?_, rfl⟩
    rw [source?, he]
    rfl
  | @file path octets _ he hf hp hd =>
    refine ⟨.file path, ?_, ?_⟩
    · rw [source?, he, hf]
      rfl
    · simp [ScriptSource.load, ScriptSource.ofEntry, hp, hd, Except.mapError]
  | word he hf hw =>
    refine ⟨.word script, ?_, rfl⟩
    rw [source?, he, hf, hw]
    rfl

theorem program_eq (h : arguments.Gives surroundings.entry script paths) :
    arguments.program surroundings =
      ((Program.ofScript surroundings.clock script).mapError .program).map (·, paths) := by
  obtain ⟨source, hsource, hload⟩ := h.exists_source
  rw [Arguments.program, hsource]
  dsimp only
  rw [hload]
  show ((Program.ofScript surroundings.clock script).mapError SessionError.program >>=
    fun program => pure (program, paths)) = _
  cases Program.ofScript surroundings.clock script with
  | error cause => rfl
  | ok program => rfl

theorem program_of_ok (h : arguments.Gives surroundings.entry script paths)
    (hp : Program.ofScript surroundings.clock script = .ok program) :
    arguments.program surroundings = .ok (program, paths) := by
  rw [program_eq h, hp]
  rfl

theorem program_of_error {cause : ScriptError}
    (h : arguments.Gives surroundings.entry script paths)
    (hp : Program.ofScript surroundings.clock script = .error cause) :
    arguments.program surroundings = .error (.program cause) := by
  rw [program_eq h, hp]
  rfl

theorem program_of_unscripted (he : arguments.expression = .none) (hf : arguments.file = .none)
    (hw : arguments.words = []) : arguments.program surroundings = .error .noScript := by
  rw [Arguments.program, source?, he, hf, hw]
  rfl

theorem program_of_unread (he : arguments.expression = .none) (hf : arguments.file = some path)
    (hp : ∀ octets, surroundings.entry path = .file octets → Utf8.decode? octets = .none) :
    ∃ cause, arguments.program surroundings = .error (.scriptFile path cause) := by
  have hload : ∃ cause, ScriptSource.ofEntry (surroundings.entry path) = .error cause := by
    cases hentry : surroundings.entry path with
    | file octets =>
      refine ⟨.notText, ?_⟩
      rw [ScriptSource.ofEntry, hp octets hentry]
    | directory => exact ⟨_, rfl⟩
    | absent cause => exact ⟨_, rfl⟩
  obtain ⟨cause, hcause⟩ := hload
  refine ⟨cause, ?_⟩
  rw [Arguments.program, source?, he, hf]
  simp [ScriptSource.choose, ScriptSource.load, hcause, Except.mapError, bind, Except.bind]

-- ---------------------------------------------------------------------------
-- The run
-- ---------------------------------------------------------------------------

theorem run_of_error {error : SessionError} (h : arguments.program surroundings = .error error) :
    arguments.run surroundings = (.empty, some error) := by
  rw [run, h]

theorem run_of_syntaxOnly (h : arguments.program surroundings = .ok (program, paths))
    (hs : arguments.syntaxOnly = true) :
    arguments.run surroundings = (.wrote "Syntax is valid\n".toList, .none) := by
  simp [run, h, hs]

theorem run_of_ok (h : arguments.program surroundings = .ok (program, paths))
    (hs : arguments.syntaxOnly = false) (hp : surroundings.standardInput = some piped) :
    let run := program.runInputs arguments.options surroundings.clock
      (inputs surroundings piped paths)
    (arguments.run surroundings).1 = run ∧
      ((arguments.run surroundings).2 = .none ↔
        run.failure = .none ∧ run.tally.unreadable = 0) := by
  cases paths with
  | nil =>
    have hrun : program.runInputs arguments.options surroundings.clock [.octets piped] =
        program.runOctets arguments.options surroundings.clock piped :=
      Transcript.followedBy_empty _
    simp [run, h, hs, hp, inputs, hrun, Program.runInput, Program.unreadable_runOctets]
  | cons path paths =>
    simp only [run, h, hs, inputs]
    cases (program.runInputs arguments.options surroundings.clock
      ((path :: paths).map (input surroundings))).failure with
    | some failure => simp
    | none => simp

theorem clean_input_iff (hk : arguments.keepGoing = true)
    (hd : surroundings.entry path ≠ .directory) :
    program.Clean arguments.options surroundings.clock (input surroundings path) ↔
      ∀ cause, surroundings.entry path ≠ .absent cause := by
  cases hentry : surroundings.entry path with
  | file octets => simp [Program.Clean, input, hentry, options, hk]
  | directory => exact absurd hentry hd
  | absent cause => simp [Program.Clean, input, hentry]

theorem clean_inputs_iff (hk : arguments.keepGoing = true)
    (hd : ∀ path ∈ paths, surroundings.entry path ≠ .directory) :
    (∀ input ∈ inputs surroundings piped paths,
        program.Clean arguments.options surroundings.clock input) ↔
      ∀ path ∈ paths, ∀ cause, surroundings.entry path ≠ .absent cause := by
  cases paths with
  | nil => simp [inputs, Program.Clean, options, hk]
  | cons path paths =>
    rw [inputs, List.forall_mem_map]
    exact forall₂_congr fun path hpath => clean_input_iff hk (hd path hpath)

-- ---------------------------------------------------------------------------
-- The whole session
-- ---------------------------------------------------------------------------

/-- What a session with a program comes to, whose run comes to `result` and leaves
`ledger`. -/
structure Ran (surroundings : Surroundings) (piped : Octets) (arguments : Arguments)
    (paths : List Text) (program : Program) (result : Except RunError Unit) (ledger : Ledger)
    (ended : Ended) : Prop where
  out : ended.out = ledger.out
  code : ended.code = 0 ↔ result = .ok () ∧ ledger.tally.unreadable = 0
  clean : ended.code = 0 ↔ ∀ input ∈ inputs surroundings piped paths,
    program.Clean arguments.options surroundings.clock input
  keepGoing : arguments.keepGoing = true →
    (∀ path ∈ paths, surroundings.entry path ≠ .directory) →
    (ended.code = 1 ↔ ∃ path ∈ paths, ∃ cause, surroundings.entry path = .absent cause)

/-- What a session with something piped into it comes to. -/
structure Tells (surroundings : Surroundings) (piped : Octets) (arguments : Arguments)
    (ended : Ended) : Prop where
  codes : ended.code = 0 ∨ ended.code = 1
  unscripted : arguments.expression = .none → arguments.file = .none → arguments.words = [] →
    ended.out = [] ∧ ended.code = 1
  unread : ∀ path, arguments.expression = .none → arguments.file = some path →
    (∀ octets, surroundings.entry path = .file octets → Utf8.decode? octets = .none) →
    ended.out = [] ∧ ended.code = 1
  misspelt : ∀ script paths cause, arguments.Gives surroundings.entry script paths →
    Program.ofScript surroundings.clock script = .error cause → ended.out = [] ∧ ended.code = 1
  syntaxOnly : ∀ script paths program, arguments.Gives surroundings.entry script paths →
    Program.ofScript surroundings.clock script = .ok program → arguments.syntaxOnly = true →
    ended.out = "Syntax is valid\n".toList ∧ ended.code = 0
  ran : ∀ script paths program, arguments.Gives surroundings.entry script paths →
    Program.ofScript surroundings.clock script = .ok program → arguments.syntaxOnly = false →
    let loops := (program.inputsOn arguments.options surroundings.clock
      (inputs surroundings piped paths)).on .blank
    Ran surroundings piped arguments paths program loops.1 loops.2 ended

theorem out_session (surroundings : Surroundings) (arguments : Arguments) :
    (arguments.session surroundings).out = (arguments.run surroundings).1.out :=
  rfl

theorem code_session (surroundings : Surroundings) (arguments : Arguments) :
    (arguments.session surroundings).code =
      if (arguments.run surroundings).2.isSome then 1 else 0 :=
  rfl

theorem code_session_eq_zero :
    (arguments.session surroundings).code = 0 ↔ (arguments.run surroundings).2 = .none := by
  rw [code_session]
  cases (arguments.run surroundings).2 <;> simp

theorem codes_session (surroundings : Surroundings) (arguments : Arguments) :
    (arguments.session surroundings).code = 0 ∨ (arguments.session surroundings).code = 1 := by
  rw [code_session]
  cases (arguments.run surroundings).2 <;> simp

theorem session_of_error {error : SessionError}
    (h : arguments.program surroundings = .error error) :
    (arguments.session surroundings).out = [] ∧ (arguments.session surroundings).code = 1 := by
  rw [session, run_of_error h]
  exact ⟨rfl, rfl⟩

theorem session_of_ok (h : arguments.program surroundings = .ok (program, paths))
    (hs : arguments.syntaxOnly = false) (hp : surroundings.standardInput = some piped) :
    let loops := (program.inputsOn arguments.options surroundings.clock
      (inputs surroundings piped paths)).on .blank
    Ran surroundings piped arguments paths program loops.1 loops.2
      (arguments.session surroundings) := by
  obtain ⟨hrun, herror⟩ := run_of_ok h hs hp
  have hloops := program.adds_inputsOn arguments.options surroundings.clock
    (inputs surroundings piped paths) .blank
  rw [Ledger.blank_extend] at hloops
  have hclean : (arguments.session surroundings).code = 0 ↔
      ∀ input ∈ inputs surroundings piped paths,
        program.Clean arguments.options surroundings.clock input := by
    rw [code_session_eq_zero, herror, Program.passed_and_readable_iff]
  dsimp only
  rw [hloops]
  refine ⟨?_, ?_, hclean, ?_⟩
  · rw [out_session, hrun]
  · rw [code_session_eq_zero, herror]
    cases (program.runInputs arguments.options surroundings.clock
      (inputs surroundings piped paths)).failure <;> simp
  · intro hk hd
    have hcodes := codes_session surroundings arguments
    have hone : (arguments.session surroundings).code = 1 ↔
        ¬ (arguments.session surroundings).code = 0 := by
      omega
    rw [hone, hclean, clean_inputs_iff hk hd]
    simp only [not_forall, not_not, exists_prop]

/-- A session tells by its code whether the run was clean, and keeps what the run wrote. -/
theorem session_tells (clock : Clock) (entry : Text → Entry) (piped : Octets)
    (arguments : Arguments) :
    Tells ⟨clock, entry, some piped⟩ piped arguments
      (arguments.session ⟨clock, entry, some piped⟩) where
  codes := codes_session _ _
  unscripted he hf hw := session_of_error (program_of_unscripted he hf hw)
  unread path he hf hp := by
    obtain ⟨cause, hcause⟩ := program_of_unread he hf hp
    exact session_of_error hcause
  misspelt script paths cause hgives hscript := session_of_error (program_of_error hgives hscript)
  syntaxOnly script paths program hgives hscript hs := by
    rw [session, run_of_syntaxOnly (program_of_ok hgives hscript) hs]
    exact ⟨rfl, rfl⟩
  ran script paths program hgives hscript hs :=
    session_of_ok (program_of_ok hgives hscript) hs rfl

-- What a block has written before it fails is kept.
example :
    let ended := Arguments.session ⟨⟨0, 0, .utc⟩, fun _ => .absent .notFound, some [97, 10, 98]⟩
      { Arguments.none with expression := some "\x7b print(%1); shout() \x7d".toList }
    ended.out = ['a'] ∧ ended.code = 1 := by
  decide +kernel

end Arguments

end LineFilter
