import BuildDispatch.Proofs.Dispatch.Ending

/-! An accepted command line in two stages: what is prepared before the environment is looked at,
and the plan that is made of it.  The notes of a plan are for reading only: they change nothing
about how it is carried out. -/

namespace BuildDispatch

namespace Dispatch

open CommandLine (Invocation)

/-- What an accepted command line and the state of the configuration file come to: a failure, or a
request with the settings for it. -/
def prepare (i : Invocation) (file : FileState) : Except Failure (Request × Config) :=
  match Request.ofWords i.tokens with
  | .error e => .error (.request e)
  | .ok request =>
    match Config.load configPath file with
    | .error e => .error (.load e)
    | .ok config => .ok (request, config)

variable {words : List Bytes} {file : FileState} {i : Invocation} {request : Request}
  {config : Config} {f : Failure}

theorem prepare_eq_ok :
    prepare i file = .ok (request, config) ↔
      Request.ofWords i.tokens = .ok request ∧ Config.load configPath file = .ok config := by
  unfold prepare
  cases Request.ofWords i.tokens with
  | error e => simp
  | ok r => cases Config.load configPath file <;> simp

/-- Something is prepared exactly for an action that is not empty and settings that can be had. -/
theorem exists_prepare_iff (hParse : CommandLine.parse words = .ok i) :
    (∃ request, prepare i file = .ok (request, config)) ↔
      i.action ≠ [] ∧ Config.load configPath file = .ok config := by
  constructor
  · rintro ⟨request, h⟩
    obtain ⟨hRequest, hLoad⟩ := prepare_eq_ok.mp h
    exact ⟨action_ne_nil_of_ofWords hParse hRequest, hLoad⟩
  · rintro ⟨hAction, hLoad⟩
    obtain ⟨request, hRequest⟩ := (CommandLine.exists_request_of_parse hParse).mpr hAction
    exact ⟨request, prepare_eq_ok.mpr ⟨hRequest, hLoad⟩⟩

/-- The command for what was prepared. -/
def preparedCommand (i : Invocation) (block : EnvironmentBlock) (request : Request)
    (config : Config) : Command :=
  commandFor config (presetFor i config) request block.environment

/-- What is noted before the command is shown or run. -/
def firstNotes (i : Invocation) (block : EnvironmentBlock) (request : Request) (config : Config) :
    List Note :=
  if isVerbose i config block then notesFor config (presetFor i config) request.action else []

/-- What is noted last before the command is run. -/
def lastNotes (i : Invocation) (block : EnvironmentBlock) (request : Request) (config : Config) :
    List Note :=
  if isVerbose i config block then [.running (preparedCommand i block request config)] else []

theorem plan_of_prepare_error (hParse : CommandLine.parse words = .ok i)
    (h : prepare i file = .error f) (block : EnvironmentBlock) :
    plan words block file = .fail f := by
  simp only [plan, hParse, planInvocation]
  unfold prepare at h
  cases hRequest : Request.ofWords i.tokens with
  | error e =>
    rw [hRequest] at h
    cases h
    rfl
  | ok request =>
    cases hLoad : Config.load configPath file with
    | error e =>
      rw [hRequest, hLoad] at h
      cases h
      rfl
    | ok config =>
      rw [hRequest, hLoad] at h
      cases h

theorem plan_of_prepare_ok (hParse : CommandLine.parse words = .ok i)
    (h : prepare i file = .ok (request, config)) (block : EnvironmentBlock) :
    plan words block file =
      if i.dryRun then
        .show (firstNotes i block request config) (preparedCommand i block request config)
      else
        .start (firstNotes i block request config ++ lastNotes i block request config)
          (preparedCommand i block request config) := by
  obtain ⟨hRequest, hLoad⟩ := prepare_eq_ok.mp h
  simp only [plan, hParse, planInvocation, hRequest, hLoad]
  rfl

end Dispatch

namespace Note

theorem text_running (c : Command) : (Note.running c).text = "[info] Running: " ++ c.render := rfl

theorem lines_nil : lines [] = "" := rfl

theorem lines_singleton (note : Note) : lines [note] = note.text ++ "\n" := by
  simp [lines, CommandLine.lines]

theorem lines_append (notes more : List Note) :
    lines (notes ++ more) = lines notes ++ lines more := by
  simp [lines, CommandLine.lines, String.join_append]

end Note

namespace Plan

variable {answer : Command → Except OsError WaitStatus}

/-- The notes are all that is written to the error stream, whatever the system answers. -/
theorem finish_start_notes (notes : List Note) (c : Command) :
    ((Plan.start notes c).finish answer).notes = Note.lines notes := by
  rw [finish_start]
  cases c.judge (answer c) <;> rfl

/-- The output is left to the process. -/
theorem finish_start_stdout (notes : List Note) (c : Command) :
    ((Plan.start notes c).finish answer).stdout = "" := by
  rw [finish_start]
  cases c.judge (answer c) <;> rfl

end Plan

end BuildDispatch
