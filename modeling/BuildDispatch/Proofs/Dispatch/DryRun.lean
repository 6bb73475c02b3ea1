import BuildDispatch.Proofs.Host.Runs

/-! A dry run and the run that it stands for.  They differ only once a command has been composed:
what the one shows is what the other starts, with the same program, arguments and environment. -/

namespace BuildDispatch

namespace Dispatch

open CommandLine (Invocation)

/-- Two runs fail alike, before a command is composed. -/
def FailAlike (words words' : List Bytes) (block : EnvironmentBlock) (file : FileState) : Prop :=
  ∃ f : Failure, ∀ answer, ending words block file answer = ⟨1, "", "", none, some f⟩ ∧
    ending words' block file answer = ⟨1, "", "", none, some f⟩

/-- What a run notes last, in the words of a dry run, before it starts the command `c`. -/
def lastWords (isVerbose : Bool) (c : Command) : String :=
  if isVerbose then "[info] Running: " ++ c.render ++ "\n" else ""

/-- A dry run shows the command `c`, and nothing else comes of it; the run that it stands for starts
`c`.  On the error stream both write `notes`, and the latter then writes `last`. -/
structure Rehearses (dry real : List Bytes) (block : EnvironmentBlock) (file : FileState)
    (c : Command) (notes last : String) : Prop where
  shows : ∀ answer, ending dry block file answer = ⟨0, c.render ++ "\n", notes, none, none⟩
  startsNone : ∀ respond, (((plan dry block file).finishWith (Plan.recorded respond)).run []).2 = []
  /-- On no host does a dry run change a file or write anything else. -/
  untouched : ∀ (h : Host) (behaviour : Host.Behaviour),
    h.files.state (.ofText configPath) = file →
      (h.run dry block behaviour).files = h.files ∧
      (h.run dry block behaviour).stdout = .ofText (c.render ++ "\n") ∧
      (h.run dry block behaviour).stderr = .ofText notes
  starts : ∀ respond, (((plan real block file).finishWith (Plan.recorded respond)).run []).2 = [c]
  started : ∀ answer, (ending real block file answer).started = some c
  /-- The process is made with exactly the argument vector and the environment. -/
  process : (∀ w ∈ c.argv, (0 : UInt8) ∉ w) → c.process.program :: c.process.args = c.argv
  env : c.process.env = c.env
  /-- On every host it is these that the process has when it is started. -/
  given : Host.holdsNul c = false → ∀ (h : Host) (behaviour : Host.Behaviour),
    h.start c behaviour = behaviour h ⟨c.program, c.args, c.env⟩
  noted : ∀ answer, (ending real block file answer).notes = notes ++ last
  /-- On every host it is noted before the process writes anything. -/
  first : ∀ (h : Host) (behaviour : Host.Behaviour), h.files.state (.ofText configPath) = file →
    (h.run real block behaviour).stderr =
      .ofText (notes ++ last) ++ h.childStderr behaviour (plan real block file)
  /-- What the process does is all that the run does beside its notes. -/
  finished : ∀ (h : Host) (behaviour : Host.Behaviour) (done : Host.Finished),
    h.files.state (.ofText configPath) = file → h.start c behaviour = .ok done →
      h.run real block behaviour = ⟨ending real block file fun _ => .ok done.status, done.stdout,
        .ofText (notes ++ last) ++ done.stderr, done.files⟩
  notStarted : ∀ (h : Host) (behaviour : Host.Behaviour) (e : OsError),
    h.files.state (.ofText configPath) = file → h.start c behaviour = .error e →
      h.run real block behaviour = ⟨ending real block file fun _ => .error e, [],
        .ofText (notes ++ last), h.files⟩

variable {dry real : List Bytes} {block : EnvironmentBlock} {file : FileState}

theorem lines_lastNotes (i : Invocation) (block : EnvironmentBlock) (request : Request)
    (config : Config) :
    Note.lines (lastNotes i block request config) =
      lastWords (isVerbose i config block) (preparedCommand i block request config) := by
  unfold lastNotes lastWords
  split
  · rw [Note.lines_singleton, Note.text_running]
  · exact Note.lines_nil

theorem rehearses_of_plans {c : Command} {notes last : List Note}
    (hDry : plan dry block file = .show notes c)
    (hReal : plan real block file = .start (notes ++ last) c) :
    Rehearses dry real block file c (Note.lines notes) (Note.lines last) := by
  have hNoted : ∀ answer,
      (ending real block file answer).notes = Note.lines notes ++ Note.lines last := by
    intro answer
    rw [ending, hReal, Plan.finish_start_notes, Note.lines_append]
  exact {
    shows := by
      intro answer
      rw [ending, hDry, Plan.finish_show]
    startsNone := by
      intro respond
      rw [Plan.finishWith_recorded, hDry]
      rfl
    untouched := by
      rintro h behaviour rfl
      rw [Host.run, hDry, Host.carryOut_show]
      exact ⟨rfl, rfl, rfl⟩
    starts := by
      intro respond
      rw [Plan.finishWith_recorded, hReal]
      rfl
    started := by
      intro answer
      rw [ending, hReal, Plan.started_finish]
      rfl
    process := Command.argv_process
    env := rfl
    given := fun hNul h _ => Host.start_eq hNul h
    noted := hNoted
    first := by
      rintro h behaviour rfl
      exact h.stderr_run hNoted behaviour
    finished := by
      rintro h behaviour done rfl hDone
      rw [Host.run, ending, hReal, ← Note.lines_append]
      exact Host.carryOut_start hDone _
    notStarted := by
      rintro h behaviour e rfl hError
      rw [Host.run, ending, hReal, ← Note.lines_append]
      exact Host.carryOut_start hError _ }

/-- Two accepted command lines that ask for the same, the one for a dry run and the other not, fail
alike, or the one run shows what the other one does. -/
theorem failAlike_or_rehearses {i j : Invocation} (hDry : CommandLine.parse dry = .ok i)
    (hReal : CommandLine.parse real = .ok j) (hDryRun : i.dryRun = true)
    (hRealRun : j.dryRun = false) (hPreset : j.preset = i.preset) (hTokens : j.tokens = i.tokens)
    (hVerbose : j.verbose = i.verbose) (block : EnvironmentBlock) (file : FileState) :
    FailAlike dry real block file ∨
      ∃ request config notes, Request.ofWords i.tokens = .ok request ∧
        Config.load configPath file = .ok config ∧
        ∃ c, c = commandFor config (presetFor i config) request block.environment ∧
          Rehearses dry real block file c notes (lastWords (isVerbose i config block) c) := by
  have hSame : prepare j file = prepare i file := by
    rw [prepare, prepare, hTokens]
  cases hPrepare : prepare i file with
  | error f =>
    left
    have hDryPlan := plan_of_prepare_error hDry hPrepare block
    have hRealPlan := plan_of_prepare_error hReal (hSame.trans hPrepare) block
    refine ⟨f, fun answer => ?_⟩
    rw [ending, ending, hDryPlan, hRealPlan, Plan.finish_fail]
    exact ⟨rfl, rfl⟩
  | ok prepared =>
    right
    obtain ⟨request, config⟩ := prepared
    obtain ⟨hRequest, hLoad⟩ := prepare_eq_ok.mp hPrepare
    have hDryPlan := plan_of_prepare_ok hDry hPrepare block
    have hRealPlan := plan_of_prepare_ok hReal (hSame.trans hPrepare) block
    rw [hDryRun, if_pos rfl] at hDryPlan
    rw [hRealRun, if_neg Bool.false_ne_true] at hRealPlan
    -- the command and the notes depend on the preset and the verbosity that were asked for only
    have hCommand : preparedCommand j block request config =
        preparedCommand i block request config := by
      rw [preparedCommand, preparedCommand, presetFor, presetFor, hPreset]
    have hFirst : firstNotes j block request config = firstNotes i block request config := by
      rw [firstNotes, firstNotes, isVerbose, isVerbose, presetFor, presetFor, hPreset, hVerbose]
    have hLast : lastNotes j block request config = lastNotes i block request config := by
      rw [lastNotes, lastNotes, isVerbose, isVerbose, hCommand, hVerbose]
    rw [hCommand, hFirst, hLast] at hRealPlan
    have hRehearses := rehearses_of_plans hDryPlan hRealPlan
    rw [lines_lastNotes] at hRehearses
    exact ⟨request, config, _, hRequest, hLoad, _, rfl, hRehearses⟩

/-- A dry run with the flags in one word stands for a run with the one flag by its long name. -/
theorem rehearses_test :
    let dry := ["-vn", "test", "--lib"].map Bytes.ofText
    let real := ["--verbose", "test", "--lib"].map Bytes.ofText
    let block : EnvironmentBlock := ⟨[.ofText "A=1"]⟩
    ∃ c notes, notes = "[info] Config: built-in defaults\n[info] Preset: swym\n" ∧
      c.render ++ "\n" = "RUST_TEST_THREADS=1 cargo test --features debug-alloc,stats --lib\n" ∧
      c.process = ⟨.ofText "cargo",
        ["test", "--features", "debug-alloc,stats", "--lib"].map Bytes.ofText,
        .ofList [(.ofText "A", .ofText "1"), (.ofText "RUST_TEST_THREADS", .ofText "1")]⟩ ∧
      Rehearses dry real block .absent c notes (lastWords true c) := by
  intro dry real block
  have hDry : CommandLine.parse dry =
      .ok ⟨true, true, none, .ofText "test", [.ofText "--lib"]⟩ := by
    rfl
  have hReal : CommandLine.parse real =
      .ok ⟨true, false, none, .ofText "test", [.ofText "--lib"]⟩ := by
    rfl
  have hEnding : (ending dry block .absent fun _ => .ok ⟨0⟩).exitCode = 0 ∧
      (ending dry block .absent fun _ => .ok ⟨0⟩).notes =
        "[info] Config: built-in defaults\n[info] Preset: swym\n" ∧
      (ending dry block .absent fun _ => .ok ⟨0⟩).stdout =
        "RUST_TEST_THREADS=1 cargo test --features debug-alloc,stats --lib\n" := by
    decide +kernel
  have hProcess : (ending real block .absent fun _ => .ok ⟨0⟩).started.map Command.process =
      some ⟨.ofText "cargo",
        ["test", "--features", "debug-alloc,stats", "--lib"].map Bytes.ofText,
        .ofList [(.ofText "A", .ofText "1"), (.ofText "RUST_TEST_THREADS", .ofText "1")]⟩ := by
    decide +kernel
  obtain ⟨hCode, hNotes, hStdout⟩ := hEnding
  rcases failAlike_or_rehearses hDry hReal rfl rfl rfl rfl rfl block .absent with
    ⟨f, hFail⟩ | ⟨request, config, notes, -, -, c, -, hRehearses⟩
  · rw [(hFail fun _ => .ok ⟨0⟩).1] at hCode
    cases hCode
  · rw [hRehearses.shows fun _ => .ok ⟨0⟩] at hNotes hStdout
    rw [hRehearses.started fun _ => .ok ⟨0⟩] at hProcess
    exact ⟨c, notes, hNotes, hStdout, Option.some.inj hProcess, hRehearses⟩

end Dispatch

end BuildDispatch
