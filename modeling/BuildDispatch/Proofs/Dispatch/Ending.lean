import BuildDispatch.Proofs.CommandLine.HelpAsked
import BuildDispatch.Proofs.Dispatch.Plan

/-! How a run ends, for every command line, environment, configuration file and answer of the
operating system.  A run goes through its stages once: what fails early hides everything behind it,
at most one process is started, and the exit code tells only how the last stage went. -/

namespace BuildDispatch

namespace Command

/-- Only the wait status zero is judged to be a success. -/
theorem judge_eq_ok {c : Command} {answer : Except OsError WaitStatus} :
    c.judge answer = .ok () ↔ answer = .ok ⟨0⟩ := by
  cases answer with
  | error e => simp [judge]
  | ok status =>
    obtain ⟨raw⟩ := status
    by_cases h : raw = 0 <;> simp [judge, check, WaitStatus.isSuccess, h]

end Command

namespace Plan

/-! ### Carrying out -/

/-- Starting a process where every start is recorded, and answered in view of those before. -/
def recorded (respond : List Command → Command → Except OsError WaitStatus) (c : Command) :
    StateM (List Command) (Except OsError WaitStatus) := do
  let before ← get
  set (before ++ [c])
  return respond before c

/-- A plan starts what it says and nothing else, and once. -/
theorem finishWith_recorded (p : Plan)
    (respond : List Command → Command → Except OsError WaitStatus) (before : List Command) :
    (p.finishWith (recorded respond)).run before =
      (p.finish (respond before), before ++ p.toStart?.toList) := by
  cases p with
  | refuse r inColour => exact Prod.ext rfl (List.append_nil before).symm
  | fail f => exact Prod.ext rfl (List.append_nil before).symm
  | «show» notes c => exact Prod.ext rfl (List.append_nil before).symm
  | start notes c => rfl

variable {answer : Command → Except OsError WaitStatus}

theorem finish_fail (f : Failure) : (Plan.fail f).finish answer = ⟨1, "", "", none, some f⟩ := rfl

theorem finish_show (notes : List Note) (c : Command) :
    (Plan.show notes c).finish answer = ⟨0, c.render ++ "\n", Note.lines notes, none, none⟩ := rfl

theorem finish_start (notes : List Note) (c : Command) :
    (Plan.start notes c).finish answer =
      .ofResult "" (Note.lines notes) (some c) (c.judge (answer c)) := rfl

/-- A refusal that is not help is an error of usage. -/
theorem finish_refuse {r : CommandLine.Refusal} (h : ∀ form, r ≠ .help form) (inColour : Bool) :
    (Plan.refuse r inColour).finish answer = ⟨2, "", r.text inColour, none, none⟩ := by
  cases r with
  | help form => exact absurd rfl (h form)
  | _ => rfl

/-- A process that ends with status zero is a success. -/
theorem finish_start_ok {c : Command} (h : answer c = .ok ⟨0⟩) (notes : List Note) :
    (Plan.start notes c).finish answer = ⟨0, "", Note.lines notes, some c, none⟩ := by
  rw [finish_start, Command.judge_eq_ok.mpr h]
  rfl

/-- Any other answer is a failure, also that no process could be started. -/
theorem finish_start_error {c : Command} (h : answer c ≠ .ok ⟨0⟩) (notes : List Note) :
    ∃ f, (Plan.start notes c).finish answer = ⟨1, "", Note.lines notes, some c, some f⟩ := by
  cases hJudge : c.judge (answer c) with
  | ok u => exact absurd (Command.judge_eq_ok.mp hJudge) h
  | error f =>
    refine ⟨f, ?_⟩
    rw [finish_start, hJudge]
    rfl

end Plan

namespace Dispatch

open CommandLine (Invocation Refusal HelpForm)

variable {words : List Bytes} {block : EnvironmentBlock} {file : FileState}
  {answer : Command → Except OsError WaitStatus} {e : Ending}

/-- How a whole run ends. -/
def ending (words : List Bytes) (block : EnvironmentBlock) (file : FileState)
    (answer : Command → Except OsError WaitStatus) : Ending :=
  (plan words block file).finish answer

/-! ### What a run comes to -/

/-- Settings that could be loaded are there to be used. -/
theorem isUsable_of_load {config : Config} (h : Config.load configPath file = .ok config) :
    file.IsUsable :=
  Config.exists_load_eq_ok.mp ⟨config, h⟩

theorem not_isUsable_of_load {e : LoadError} (h : Config.load configPath file = .error e) :
    ¬ file.IsUsable := by
  intro hUsable
  obtain ⟨config, hConfig⟩ := Config.exists_load_eq_ok.mpr hUsable
  cases h.symm.trans hConfig

theorem action_ne_nil_of_ofWords {i : Invocation} {request : Request}
    (hParse : CommandLine.parse words = .ok i) (h : Request.ofWords i.tokens = .ok request) :
    i.action ≠ [] :=
  (CommandLine.exists_request_of_parse hParse).mp ⟨request, h⟩

/-- The endings that a run can have, each with what leads to it. -/
inductive Outcome (words : List Bytes) (block : EnvironmentBlock) (file : FileState)
    (answer : Command → Except OsError WaitStatus) : Ending → Prop
  | help {form : HelpForm} (parse : CommandLine.parse words = .error (.help form)) :
    Outcome words block file answer
      ⟨0, Refusal.text (.help form) (asksForColour block), "", none, none⟩
  | misused {r : Refusal} (parse : CommandLine.parse words = .error r)
      (usage : ∀ form, r ≠ .help form) :
    Outcome words block file answer ⟨2, "", r.text (asksForColour block), none, none⟩
  | emptyAction {i : Invocation} (parse : CommandLine.parse words = .ok i)
      (action : i.action = []) :
    Outcome words block file answer ⟨1, "", "", none, some (.request .emptyAction)⟩
  | unusable {i : Invocation} {e : LoadError} (parse : CommandLine.parse words = .ok i)
      (unusable : ¬ file.IsUsable) :
    Outcome words block file answer ⟨1, "", "", none, some (.load e)⟩
  | shown {i : Invocation} {c : Command} (notes : List Note)
      (parse : CommandLine.parse words = .ok i) (action : i.action ≠ []) (usable : file.IsUsable)
      (dryRun : i.dryRun = true) :
    Outcome words block file answer ⟨0, c.render ++ "\n", Note.lines notes, none, none⟩
  | succeeded {i : Invocation} {c : Command} (notes : List Note)
      (parse : CommandLine.parse words = .ok i) (action : i.action ≠ []) (usable : file.IsUsable)
      (dryRun : i.dryRun = false) (answered : answer c = .ok ⟨0⟩) :
    Outcome words block file answer ⟨0, "", Note.lines notes, some c, none⟩
  | failed {i : Invocation} {c : Command} {f : Failure} (notes : List Note)
      (parse : CommandLine.parse words = .ok i) (action : i.action ≠ []) (usable : file.IsUsable)
      (dryRun : i.dryRun = false) (answered : answer c ≠ .ok ⟨0⟩) :
    Outcome words block file answer ⟨1, "", Note.lines notes, some c, some f⟩

theorem Course.outcome {p : Plan} (h : Course words block file p)
    (answer : Command → Except OsError WaitStatus) :
    Outcome words block file answer (p.finish answer) := by
  cases h with
  | @refused r parse =>
    by_cases hHelp : ∃ form, r = .help form
    · obtain ⟨form, rfl⟩ := hHelp
      exact .help parse
    · rw [not_exists] at hHelp
      rw [Plan.finish_refuse hHelp]
      exact .misused parse hHelp
  | emptyAction parse action => exact .emptyAction parse action
  | unusable parse action load => exact .unusable parse (not_isUsable_of_load load)
  | shown notes parse split load dryRun =>
    exact .shown notes parse (action_ne_nil_of_ofWords parse split) (isUsable_of_load load) dryRun
  | @started i request config notes parse split load dryRun =>
    have hAction := action_ne_nil_of_ofWords parse split
    have hUsable := isUsable_of_load load
    by_cases hZero : answer (commandFor config (presetFor i config) request block.environment) =
        .ok ⟨0⟩
    · rw [Plan.finish_start_ok hZero]
      exact .succeeded notes parse hAction hUsable dryRun hZero
    · obtain ⟨f, hf⟩ := Plan.finish_start_error hZero notes
      rw [hf]
      exact .failed notes parse hAction hUsable dryRun hZero

/-- A command is composed, to be shown only or to be run: the command line is accepted with an
action that is not empty, and settings can be had. -/
def Composes (words : List Bytes) (file : FileState) (dryRun : Bool) : Prop :=
  ∃ i, CommandLine.parse words = .ok i ∧ i.action ≠ [] ∧ file.IsUsable ∧ i.dryRun = dryRun

/-- An accepted command line leads to no success: its action is empty, settings cannot be had, or
the process that is started is not reported to have ended with status zero. -/
def Fails (words : List Bytes) (file : FileState) (answer : Command → Except OsError WaitStatus)
    (e : Ending) : Prop :=
  ∃ i, CommandLine.parse words = .ok i ∧
    (i.action = [] ∨ ¬ file.IsUsable ∨ ∃ c, e.started = some c ∧ answer c ≠ .ok ⟨0⟩)

namespace Outcome

/-- A process is started exactly when a command is composed and is not only to be shown. -/
theorem started_iff (h : Outcome words block file answer e) :
    (∃ c, e.started = some c) ↔ Composes words file false := by
  cases h with
  | help parse => simp [parse, Composes]
  | misused parse usage => simp [parse, Composes]
  | emptyAction parse action => simp [parse, action, Composes]
  | unusable parse unusable => simp [parse, unusable, Composes]
  | shown notes parse action usable dryRun => simp [parse, dryRun, Composes]
  | succeeded notes parse action usable dryRun answered
  | failed notes parse action usable dryRun answered =>
    simp [parse, action, usable, dryRun, Composes]

/-- A run succeeds exactly when it shows help, shows a command, or its process ends with status
zero. -/
theorem exitCode_eq_zero_iff (h : Outcome words block file answer e) :
    e.exitCode = 0 ↔
      (∃ form, CommandLine.parse words = .error (.help form)) ∨ Composes words file true ∨
        ∃ c, e.started = some c ∧ answer c = .ok ⟨0⟩ := by
  cases h with
  | help parse => simp [parse]
  | misused parse usage => simp [parse, usage, Composes]
  | emptyAction parse action => simp [parse, action, Composes]
  | unusable parse unusable => simp [parse, unusable, Composes]
  | shown notes parse action usable dryRun => simp [parse, action, usable, dryRun, Composes]
  | succeeded notes parse action usable dryRun answered => simp [answered]
  | failed notes parse action usable dryRun answered => simp [parse, dryRun, answered, Composes]

/-- A command line that is refused and does not ask for help is misuse, and nothing else is. -/
theorem exitCode_eq_two_iff (h : Outcome words block file answer e) :
    e.exitCode = 2 ↔
      (∃ r, CommandLine.parse words = .error r) ∧
        ¬ ∃ form, CommandLine.parse words = .error (.help form) := by
  cases h with
  | help parse => simp [parse]
  | misused parse usage => simp [parse, usage]
  | emptyAction parse action => simp [parse]
  | unusable parse unusable => simp [parse]
  | shown notes parse action usable dryRun => simp [parse]
  | succeeded notes parse action usable dryRun answered
  | failed notes parse action usable dryRun answered => simp [parse]

theorem exitCode_eq_one_iff (h : Outcome words block file answer e) :
    e.exitCode = 1 ↔ Fails words file answer e := by
  cases h with
  | help parse => simp [parse, Fails]
  | misused parse usage => simp [parse, Fails]
  | emptyAction parse action => simp [parse, action, Fails]
  | unusable parse unusable => simp [parse, unusable, Fails]
  | shown notes parse action usable dryRun => simp [parse, action, usable, Fails]
  | succeeded notes parse action usable dryRun answered =>
    simp [parse, action, usable, answered, Fails]
  | failed notes parse action usable dryRun answered => simp [parse, answered, Fails]

/-- There are no other exit codes. -/
theorem exitCode_le (h : Outcome words block file answer e) : e.exitCode ≤ 2 := by
  cases h <;> simp

/-- A run that does not succeed writes its complaints to the error stream only. -/
theorem stdout_of_exitCode (h : Outcome words block file answer e) (hCode : e.exitCode ≠ 0) :
    e.stdout = "" := by
  cases h with
  | help | shown => exact absurd rfl hCode
  | misused | emptyAction | unusable | succeeded | failed => rfl

end Outcome

/-! ### What is not looked at -/

/-- Behind a command line that is refused nothing counts but the colours that are asked for. -/
theorem plan_of_refused {r : Refusal} (h : CommandLine.parse words = .error r) :
    plan words block file = .refuse r (asksForColour block) := by
  simp [plan, h]

theorem plan_of_emptyAction {i : Invocation} (h : CommandLine.parse words = .ok i)
    (hAction : i.action = []) : plan words block file = .fail (.request .emptyAction) := by
  simp [plan, h, planInvocation, ofWords_tokens_of_empty hAction]

/-- Behind settings that cannot be had the environment does not count. -/
theorem exists_plan_of_unusable {i : Invocation} (h : CommandLine.parse words = .ok i)
    (hUnusable : ¬ file.IsUsable) : ∃ f, ∀ block, plan words block file = .fail f := by
  by_cases hAction : i.action = []
  · exact ⟨_, fun block => plan_of_emptyAction h hAction⟩
  · obtain ⟨request, hRequest⟩ := (CommandLine.exists_request_of_parse h).mpr hAction
    cases hLoad : Config.load configPath file with
    | ok config => exact absurd (isUsable_of_load hLoad) hUnusable
    | error e => exact ⟨.load e, fun block => by simp [plan, h, planInvocation, hRequest, hLoad]⟩

/-! ### The contract of a run -/

/-- What holds of a run that ends in `e`. -/
structure OnePass (words : List Bytes) (block : EnvironmentBlock) (file : FileState)
    (answer : Command → Except OsError WaitStatus) (e : Ending) : Prop where
  started : (∃ c, e.started = some c) ↔ Composes words file false
  /-- Where the system may answer every start in view of those before, the starts that it sees are
  the one that the ending tells of. -/
  once : ∀ respond : List Command → Command → Except OsError WaitStatus, respond [] = answer →
    ((plan words block file).finishWith (Plan.recorded respond)).run [] = (e, e.started.toList)
  success : e.exitCode = 0 ↔
    (∃ form, CommandLine.ShowsHelp .initial words form) ∨ Composes words file true ∨
      ∃ c, e.started = some c ∧ answer c = .ok ⟨0⟩
  misuse : e.exitCode = 2 ↔
    (∃ r, CommandLine.parse words = .error r) ∧
      ¬ ∃ form, CommandLine.ShowsHelp .initial words form
  failure : e.exitCode = 1 ↔ Fails words file answer e
  exitCode_le : e.exitCode ≤ 2
  silent : e.exitCode ≠ 0 → e.stdout = ""
  /-- A command is never composed from the defaults where there is a file. -/
  settings : file ≠ .absent → ∀ c, (plan words block file).command? = some c →
    ∃ i request text config, CommandLine.parse words = .ok i ∧
      Request.ofWords i.tokens = .ok request ∧ file = .holds (.ofText text) ∧
      Config.parse text = .ok config ∧
      c = commandFor config (presetFor i config) request block.environment
  refusedFirst : ∀ r, CommandLine.parse words = .error r →
    ∀ file' answer', ending words block file' answer' = e
  actionFirst : ∀ i, CommandLine.parse words = .ok i → i.action = [] →
    ∀ block' file' answer', ending words block' file' answer' = e
  settingsFirst : ∀ i, CommandLine.parse words = .ok i → ¬ file.IsUsable →
    ∀ block' answer', ending words block' file answer' = e

/-- Where there is a file, a command is composed from its settings. -/
theorem settings_of_command? {c : Command} (hFile : file ≠ .absent)
    (h : (plan words block file).command? = some c) :
    ∃ i request text config, CommandLine.parse words = .ok i ∧
      Request.ofWords i.tokens = .ok request ∧ file = .holds (.ofText text) ∧
      Config.parse text = .ok config ∧
      c = commandFor config (presetFor i config) request block.environment := by
  obtain ⟨i, request, config, hParse, hRequest, hLoad, rfl⟩ :=
    (course_plan words block file).command?_eq_some.mp h
  rcases Config.load_eq_ok.mp hLoad with ⟨hAbsent, -⟩ | ⟨text, d, hHolds, hText, rfl⟩
  · exact absurd hAbsent hFile
  · exact ⟨i, request, text, d, hParse, hRequest, hHolds, hText, rfl⟩

/-- Every run goes through its stages once. -/
theorem ending_onePass (words : List Bytes) (block : EnvironmentBlock) (file : FileState)
    (answer : Command → Except OsError WaitStatus) :
    OnePass words block file answer (ending words block file answer) := by
  have hOutcome : Outcome words block file answer (ending words block file answer) :=
    (course_plan words block file).outcome answer
  have hHelp : (∃ form, CommandLine.ShowsHelp .initial words form) ↔
      ∃ form, CommandLine.parse words = .error (.help form) := by
    simp only [CommandLine.parse_eq_help_iff]
  exact {
    started := hOutcome.started_iff
    once := by
      rintro respond rfl
      rw [Plan.finishWith_recorded, ending, Plan.started_finish]
      rfl
    success := by
      rw [hHelp]
      exact hOutcome.exitCode_eq_zero_iff
    misuse := by
      rw [hHelp]
      exact hOutcome.exitCode_eq_two_iff
    failure := hOutcome.exitCode_eq_one_iff
    exitCode_le := hOutcome.exitCode_le
    silent := hOutcome.stdout_of_exitCode
    settings := fun hFile c h => settings_of_command? hFile h
    refusedFirst := by
      intro r h file' answer'
      rw [ending, ending, plan_of_refused h, plan_of_refused h]
      rfl
    actionFirst := by
      intro i h hAction block' file' answer'
      rw [ending, ending, plan_of_emptyAction h hAction, plan_of_emptyAction h hAction]
      rfl
    settingsFirst := by
      intro i h hUnusable block' answer'
      obtain ⟨f, hPlan⟩ := exists_plan_of_unusable h hUnusable
      rw [ending, ending, hPlan, hPlan]
      rfl }

/-- An empty action is complained about although the file could not be read either. -/
example : (ending [[]] ⟨[]⟩ (.holds [0xFF]) fun _ => .ok ⟨0⟩).failure =
    some (.request .emptyAction) :=
  rfl

end Dispatch

end BuildDispatch
