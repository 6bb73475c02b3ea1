import BuildDispatch.Proofs.Host.Runs

/-! Verbosity is observation only.  Runs that differ in nothing but how verbose they are asked to be
come to plans that differ in nothing but their notes, and notes are for the error stream alone. -/

namespace BuildDispatch

/-! ### Files -/

/-- Two states of a file that differ at most in how verbose their settings are. -/
inductive FileState.AlikeButVerbose : FileState → FileState → Prop
  | same (file : FileState) : AlikeButVerbose file file
  | decoded {text text' : String} {config : Config} (verbose : Bool)
      (settings : Config.decode? text = some config)
      (settings' : Config.decode? text' = some { config with verbose }) :
    AlikeButVerbose (.holds (.ofText text)) (.holds (.ofText text'))

/-- Whether settings can be had, and what else they are, does not hang on how verbose they are. -/
theorem FileState.AlikeButVerbose.load {file file' : FileState} (h : file.AlikeButVerbose file')
    (path : String) :
    (∃ e, Config.load path file = .error e ∧ Config.load path file' = .error e) ∨
      ∃ config verbose, Config.load path file = .ok config ∧
        Config.load path file' = .ok { config with verbose } := by
  cases h with
  | same =>
    cases hLoad : Config.load path file with
    | error e => exact .inl ⟨e, rfl, rfl⟩
    | ok config => exact .inr ⟨config, config.verbose, rfl, rfl⟩
  | @decoded text text' config verbose settings settings' =>
    have hParse := Config.parse_of_decode? settings
    have hParse' := Config.parse_of_decode? settings'
    -- no rule is about verbosity
    have hRules : ({ config with verbose } : Config).violation? = config.violation? := rfl
    rw [hRules] at hParse'
    cases hViolation : config.violation? with
    | some v =>
      rw [hViolation] at hParse hParse'
      left
      refine ⟨.parse path (.invalid v), ?_, ?_⟩
      · simp [Config.load, hParse]
      · simp [Config.load, hParse']
    | none =>
      rw [hViolation] at hParse hParse'
      right
      refine ⟨{ config with source := some path }, verbose, ?_, ?_⟩
      · simp [Config.load, hParse]
      · simp [Config.load, hParse']

/-! ### Plans -/

namespace Plan

/-- Two plans that differ at most in their notes. -/
inductive AlikeButNotes : Plan → Plan → Prop
  | fail (f : Failure) : AlikeButNotes (.fail f) (.fail f)
  | «show» (notes notes' : List Note) (c : Command) :
    AlikeButNotes (.show notes c) (.show notes' c)
  | start (notes notes' : List Note) (c : Command) :
    AlikeButNotes (.start notes c) (.start notes' c)

variable {p q : Plan} {answer answer' : Command → Except OsError WaitStatus}

theorem AlikeButNotes.toStart?_eq (h : AlikeButNotes p q) : p.toStart? = q.toStart? := by
  cases h <;> rfl

/-- What is written to the output hangs neither on notes nor on answers. -/
theorem AlikeButNotes.stdout_eq (h : AlikeButNotes p q) :
    (p.finish answer).stdout = (q.finish answer').stdout := by
  cases h with
  | fail f => rfl
  | «show» notes notes' c => rfl
  | start notes notes' c =>
    rw [finish_start, finish_start]
    cases c.judge (answer c) <;> cases c.judge (answer' c) <;> rfl

theorem AlikeButNotes.result_eq (h : AlikeButNotes p q)
    (hAnswers : ∀ c, p.toStart? = some c → answer c = answer' c) :
    (p.finish answer).exitCode = (q.finish answer').exitCode ∧
      (p.finish answer).failure = (q.finish answer').failure := by
  cases h with
  | fail f => exact ⟨rfl, rfl⟩
  | «show» notes notes' c => exact ⟨rfl, rfl⟩
  | start notes notes' c =>
    rw [finish_start, finish_start, hAnswers c rfl]
    cases c.judge (answer' c) <;> exact ⟨rfl, rfl⟩

end Plan

namespace Note

theorem exists_text_eq (note : Note) : ∃ rest, note.text = "[info] " ++ rest := by
  cases note with
  | config source =>
    refine ⟨"Config: " ++ source.getD "built-in defaults", ?_⟩
    rw [← String.append_assoc]
    rfl
  | preset p =>
    refine ⟨"Preset: " ++ p.name, ?_⟩
    rw [← String.append_assoc]
    rfl
  | noPolicy action known =>
    refine ⟨"No policy for `" ++ action ++ "` (known: " ++ ", ".intercalate known
      ++ "), passing through", ?_⟩
    simp only [← String.append_assoc]
    rfl
  | running c =>
    refine ⟨"Running: " ++ c.render, ?_⟩
    rw [← String.append_assoc]
    rfl

end Note

namespace Dispatch

open CommandLine (Invocation)

/-! ### Two runs -/

variable {words words' : List Bytes} {block : EnvironmentBlock} {file file' : FileState}
  {i j : Invocation} {request : Request} {config : Config}

/-- Two runs that differ at most in what they write to the error stream. -/
structure ObservedOnly (words words' : List Bytes) (block : EnvironmentBlock)
    (file file' : FileState) : Prop where
  starts : ∀ respond respond',
    (((plan words block file).finishWith (Plan.recorded respond)).run []).2 =
      (((plan words' block file').finishWith (Plan.recorded respond')).run []).2
  started : ∀ answer answer',
    (ending words block file answer).started = (ending words' block file' answer').started
  stdout : ∀ answer answer',
    (ending words block file answer).stdout = (ending words' block file' answer').stdout
  /-- They end alike where the system answers their one start alike. -/
  result : ∀ answer answer',
    (∀ c, (ending words block file answer).started = some c → answer c = answer' c) →
      (ending words block file answer).exitCode = (ending words' block file' answer').exitCode ∧
        (ending words block file answer).failure = (ending words' block file' answer').failure

theorem observedOnly_of_plans
    (h : Plan.AlikeButNotes (plan words block file) (plan words' block file')) :
    ObservedOnly words words' block file file' where
  starts respond respond' := by
    rw [Plan.finishWith_recorded, Plan.finishWith_recorded, h.toStart?_eq]
  started answer answer' := by
    rw [ending, ending, Plan.started_finish, Plan.started_finish, h.toStart?_eq]
  stdout answer answer' := h.stdout_eq
  result answer answer' hAnswers := by
    rw [ending, Plan.started_finish] at hAnswers
    exact h.result_eq hAnswers

/-- The command hangs on the preset that is asked for and on no verbosity. -/
theorem preparedCommand_of_verbose (hPreset : j.preset = i.preset) (verbose : Bool) :
    preparedCommand j block request { config with verbose } =
      preparedCommand i block request config := by
  rw [preparedCommand, preparedCommand, presetFor, presetFor, hPreset]
  rfl

/-- The same is prepared for two runs, up to the verbosity of the settings. -/
theorem prepare_of_alike (hTokens : j.tokens = i.tokens) (hFiles : file.AlikeButVerbose file') :
    (∃ f, prepare i file = .error f ∧ prepare j file' = .error f) ∨
      ∃ request config verbose, prepare i file = .ok (request, config) ∧
        prepare j file' = .ok (request, { config with verbose }) := by
  unfold prepare
  rw [hTokens]
  cases Request.ofWords i.tokens with
  | error e => exact .inl ⟨.request e, rfl, rfl⟩
  | ok request =>
    rcases hFiles.load configPath with ⟨e, hLoad, hLoad'⟩ | ⟨config, verbose, hLoad, hLoad'⟩
    · rw [hLoad, hLoad']
      exact .inl ⟨.load e, rfl, rfl⟩
    · rw [hLoad, hLoad']
      exact .inr ⟨request, config, verbose, rfl, rfl⟩

theorem alikeButNotes_plan (hParse : CommandLine.parse words = .ok i)
    (hParse' : CommandLine.parse words' = .ok j) (hPreset : j.preset = i.preset)
    (hDryRun : j.dryRun = i.dryRun) (hTokens : j.tokens = i.tokens)
    (hFiles : file.AlikeButVerbose file') (block : EnvironmentBlock) :
    Plan.AlikeButNotes (plan words block file) (plan words' block file') := by
  rcases prepare_of_alike hTokens hFiles with
    ⟨f, hPrepare, hPrepare'⟩ | ⟨request, config, verbose, hPrepare, hPrepare'⟩
  · rw [plan_of_prepare_error hParse hPrepare, plan_of_prepare_error hParse' hPrepare']
    exact .fail f
  · rw [plan_of_prepare_ok hParse hPrepare, plan_of_prepare_ok hParse' hPrepare', hDryRun,
      preparedCommand_of_verbose hPreset]
    cases i.dryRun with
    | true => exact .show _ _ _
    | false => exact .start _ _ _

/-! ### Notes -/

/-- A verbose run is asked for: by a flag, by the settings or by a variable. -/
def IsAskedFor (i : Invocation) (config : Config) (block : EnvironmentBlock) : Prop :=
  i.verbose = true ∨ config.verbose = true ∨
    ∃ value, block.value? (.ofText "X_VERBOSE") = some value ∧ value ≠ [] ∧ value ≠ .ofText "0"

theorem isVerbose_iff : isVerbose i config block = true ↔ IsAskedFor i config block := by
  have hVariable : asksForVerbosity block = true ↔
      ∃ value, block.value? (.ofText "X_VERBOSE") = some value ∧
        value ≠ [] ∧ value ≠ .ofText "0" := by
    rw [asksForVerbosity, verboseVariable]
    cases block.value? (.ofText "X_VERBOSE") <;> simp
  rw [isVerbose, Bool.or_eq_true, Bool.or_eq_true, hVariable, or_assoc]
  rfl

/-- The notes that the run for an accepted command line writes. -/
structure WritesNotes (words : List Bytes) (block : EnvironmentBlock) (file : FileState)
    (i : Invocation) (notes : List Note) : Prop where
  /-- They are all it writes before it reports a failure, whatever the system answers. -/
  written : ∀ answer, (ending words block file answer).notes = Note.lines notes
  records : ∀ note ∈ notes, ∃ rest, note.text = "[info] " ++ rest
  /-- On every host they come before all that its process writes, whatever processes do there. -/
  first : ∀ (h : Host) (behaviour : Host.Behaviour), h.files.state (.ofText configPath) = file →
    (h.run words block behaviour).stderr =
      .ofText (Note.lines notes) ++ h.childStderr behaviour (plan words block file)
  /-- There are some exactly if a command is composed and a verbose run is asked for. -/
  asked : notes ≠ [] ↔ i.action ≠ [] ∧ ∃ config, Config.load configPath file = .ok config ∧
    IsAskedFor i config block

/-- Notes that do not hang on the answers of the system come first on every host. -/
theorem writesNotes_of_written {notes : List Note}
    (hWritten : ∀ answer, (ending words block file answer).notes = Note.lines notes)
    (hAsked : notes ≠ [] ↔ i.action ≠ [] ∧ ∃ config, Config.load configPath file = .ok config ∧
      IsAskedFor i config block) : WritesNotes words block file i notes where
  written := hWritten
  records note _ := note.exists_text_eq
  first := by
    rintro h behaviour rfl
    exact h.stderr_run hWritten behaviour
  asked := hAsked

/-- All notes of a run, be its command shown or run. -/
def allNotes (i : Invocation) (block : EnvironmentBlock) (request : Request) (config : Config) :
    List Note :=
  if i.dryRun then firstNotes i block request config
  else firstNotes i block request config ++ lastNotes i block request config

theorem allNotes_ne_nil_iff :
    allNotes i block request config ≠ [] ↔ isVerbose i config block = true := by
  unfold allNotes firstNotes lastNotes
  split <;> split <;> simp [notesFor, *]

theorem notes_ending (hParse : CommandLine.parse words = .ok i)
    (hPrepare : prepare i file = .ok (request, config)) (block : EnvironmentBlock)
    (answer : Command → Except OsError WaitStatus) :
    (ending words block file answer).notes = Note.lines (allNotes i block request config) := by
  rw [ending, plan_of_prepare_ok hParse hPrepare, allNotes]
  split
  · rw [Plan.finish_show]
  · rw [Plan.finish_start_notes]

theorem exists_writesNotes (hParse : CommandLine.parse words = .ok i) (block : EnvironmentBlock)
    (file : FileState) : ∃ notes, WritesNotes words block file i notes := by
  cases hPrepare : prepare i file with
  | error f =>
    have hPlan := plan_of_prepare_error hParse hPrepare block
    refine ⟨[], writesNotes_of_written (fun answer => ?_) ?_⟩
    · rw [ending, hPlan, Plan.finish_fail, Note.lines_nil]
    · constructor
      · intro h
        exact absurd rfl h
      · rintro ⟨hAction, config, hLoad, -⟩
        obtain ⟨request, hPrepared⟩ := (exists_prepare_iff hParse).mpr ⟨hAction, hLoad⟩
        cases hPrepare.symm.trans hPrepared
  | ok prepared =>
    obtain ⟨request, config⟩ := prepared
    obtain ⟨hAction, hLoad⟩ := (exists_prepare_iff hParse).mp ⟨request, hPrepare⟩
    refine ⟨allNotes i block request config,
      writesNotes_of_written (notes_ending hParse hPrepare block) ?_⟩
    rw [allNotes_ne_nil_iff, isVerbose_iff]
    constructor
    · intro h
      exact ⟨hAction, config, hLoad, h⟩
    · rintro ⟨-, config', hLoad', h⟩
      cases hLoad.symm.trans hLoad'
      exact h

/-- Of two runs that differ at most in the verbosity that they are asked for, neither does anything
that the other one does not do; and a run tells more only by the notes that it writes first, if a
verbose run is asked for. -/
theorem verbosity_observed (hParse : CommandLine.parse words = .ok i)
    (hParse' : CommandLine.parse words' = .ok j) (hPreset : j.preset = i.preset)
    (hDryRun : j.dryRun = i.dryRun) (hTokens : j.tokens = i.tokens)
    (hFiles : file.AlikeButVerbose file') (block : EnvironmentBlock) :
    ObservedOnly words words' block file file' ∧
      ∃ notes, WritesNotes words block file i notes := by
  have hPlans := alikeButNotes_plan hParse hParse' hPreset hDryRun hTokens hFiles block
  exact ⟨observedOnly_of_plans hPlans, exists_writesNotes hParse block file⟩

/-- A run with the flag beside one that only its settings ask to be verbose. -/
theorem observedOnly_bench :
    let words := ["-v", "bench"].map Bytes.ofText
    let words' := ["bench"].map Bytes.ofText
    let block : EnvironmentBlock := ⟨[.ofText "X_VERBOSE=0"]⟩
    let file := FileState.holds (.ofText "tool = \"cross\"\nverbose = false\n")
    let file' := FileState.holds (.ofText "\"verbose\" = true # loud\ntool = 'cross'\n")
    ObservedOnly words words' block file file' ∧
      ∃ i notes, WritesNotes words block file i notes ∧ Note.lines notes =
        "[info] Config: x.toml\n[info] Preset: swym\n" ++
          "[info] Running: RUSTFLAGS=-Ctarget-cpu=native cross bench\n" := by
  intro words words' block file file'
  have hParse : CommandLine.parse words = .ok ⟨true, false, none, .ofText "bench", []⟩ := by rfl
  have hParse' : CommandLine.parse words' = .ok ⟨false, false, none, .ofText "bench", []⟩ := by rfl
  have hSettings : Config.decode? "tool = \"cross\"\nverbose = false\n" =
      some ⟨none, some "cross", none, false, .empty, none⟩ := by
    decide +kernel
  have hSettings' : Config.decode? "\"verbose\" = true # loud\ntool = 'cross'\n" =
      some ⟨none, some "cross", none, true, .empty, none⟩ := by
    decide +kernel
  have hFiles : file.AlikeButVerbose file' := .decoded true hSettings hSettings'
  have hNotes : (ending words block file fun _ => .ok ⟨0⟩).notes =
      "[info] Config: x.toml\n[info] Preset: swym\n" ++
        "[info] Running: RUSTFLAGS=-Ctarget-cpu=native cross bench\n" := by
    decide +kernel
  obtain ⟨hObserved, notes, hWrites⟩ := verbosity_observed hParse hParse' rfl rfl rfl hFiles block
  rw [hWrites.written] at hNotes
  exact ⟨hObserved, _, notes, hWrites, hNotes⟩

end Dispatch

end BuildDispatch
