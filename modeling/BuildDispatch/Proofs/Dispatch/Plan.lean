import BuildDispatch.Dispatch
import BuildDispatch.Proofs.CommandLine.Layout
import BuildDispatch.Proofs.Config.Parse

/-! What a plan is made of.  `Course` lists the plans that a run can come to with what leads to
each, and `course_plan` says that there are no others; proofs about runs take its cases and do not
open `plan`. -/

namespace BuildDispatch

/-- A split of words is a request exactly when the first of them is a text that is not empty. -/
theorem Request.ofWords_eq_ok {words : List Bytes} {r : Request} :
    ofWords words = .ok r ↔ words = .ofText r.action :: r.trailing ∧ r.action ≠ "" := by
  cases words with
  | nil => simp [ofWords]
  | cons word trailing =>
    constructor
    · intro h
      simp only [ofWords] at h
      split at h
      · cases h
      · rename_i action hText
        split at h
        · cases h
        · rename_i hEmpty
          cases h
          rw [Bytes.text?_eq_some_iff.mp hText]
          exact ⟨rfl, by simpa using hEmpty⟩
    · rintro ⟨h, hne⟩
      cases h
      have hEmpty : r.action.isEmpty = false := by simpa using hne
      simp [ofWords, hEmpty]

/-- A file that settings can be read from: there is none, or it holds the text of a document that
decodes and breaks no rule. -/
def FileState.IsUsable (file : FileState) : Prop :=
  file = .absent ∨ ∃ text entries config, file = .holds (.ofText text) ∧
    Toml.parse? text = some entries ∧ Schema.config entries = .ok config ∧
    config.violation? = none

namespace Config

/-- Settings come from the file that is there, and from the defaults only if there is none. -/
theorem load_eq_ok {path : String} {file : FileState} {c : Config} :
    load path file = .ok c ↔
      file = .absent ∧ c = default ∨
        ∃ text d, file = .holds (.ofText text) ∧ parse text = .ok d ∧
          c = { d with source := some path } := by
  cases file with
  | absent => simp [load, eq_comm]
  | unreadable e => simp [load]
  | holds content =>
    constructor
    · intro h
      simp only [load] at h
      split at h
      · cases h
      · rename_i text hText
        split at h
        · cases h
        · rename_i d hParse
          cases h
          rw [Bytes.text?_eq_some_iff.mp hText]
          exact .inr ⟨text, d, rfl, hParse, rfl⟩
    · rintro (⟨h, -⟩ | ⟨text, d, h, hParse, rfl⟩)
      · cases h
      · cases h
        simp [load, hParse]

theorem exists_load_eq_ok {path : String} {file : FileState} :
    (∃ c, load path file = .ok c) ↔ file.IsUsable := by
  constructor
  · rintro ⟨c, h⟩
    rcases load_eq_ok.mp h with ⟨hAbsent, -⟩ | ⟨text, d, hHolds, hParse, -⟩
    · exact .inl hAbsent
    · obtain ⟨entries, hToml, hSchema, hValid⟩ := parse_eq_ok.mp hParse
      exact .inr ⟨text, entries, d, hHolds, hToml, hSchema, hValid⟩
  · rintro (hAbsent | ⟨text, entries, d, hHolds, hToml, hSchema, hValid⟩)
    · exact ⟨default, load_eq_ok.mpr (.inl ⟨hAbsent, rfl⟩)⟩
    · have hParse := parse_eq_ok.mpr ⟨entries, hToml, hSchema, hValid⟩
      exact ⟨_, load_eq_ok.mpr (.inr ⟨text, d, hHolds, hParse, rfl⟩)⟩

end Config

namespace CommandLine

/-- The action of an accepted command line is a text. -/
theorem isText_action_of_parse {words : List Bytes} {i : Invocation} (h : parse words = .ok i) :
    i.action.IsText := by
  obtain ⟨l, _, _, rfl⟩ := exists_layout_of_parse h
  exact ⟨l.action, rfl⟩

/-- The tokens of an accepted command line are a request unless the action is empty. -/
theorem exists_request_of_parse {words : List Bytes} {i : Invocation} (h : parse words = .ok i) :
    (∃ r, Request.ofWords i.tokens = .ok r) ↔ i.action ≠ [] := by
  obtain ⟨s, hs⟩ := isText_action_of_parse h
  constructor
  · rintro ⟨r, hr⟩ hEmpty
    obtain ⟨hTokens, hne⟩ := Request.ofWords_eq_ok.mp hr
    apply hne
    apply Bytes.ofText_inj
    rw [← (List.cons.inj hTokens).1, hEmpty]
    rfl
  · intro hne
    refine ⟨⟨s, i.trailing⟩, Request.ofWords_eq_ok.mpr ⟨by rw [Invocation.tokens, hs], ?_⟩⟩
    rintro rfl
    exact hne hs

end CommandLine

/-! ### Composing -/

namespace Dispatch

/-- The program is a text, also where it is the default one. -/
theorem program_toolFor (config : Config) (preset : Preset) :
    (config.toolFor preset).program = .ofText (config.tool.getD "cargo") := by
  cases h : config.tool <;> simp [Config.toolFor, Tool.default, h]

/-- The argument vector of a command for a request. -/
theorem argv_commandFor (config : Config) (preset : Preset) (request : Request)
    (env : Environment) :
    (commandFor config preset request env).argv =
      [(config.toolFor preset).program]
        ++ (config.toolFor preset).toolchain.toList.map (fun name => .ofText ("+" ++ name))
        ++ [.ofText request.action]
        ++ (policyFor config preset request.action).args.map .ofText ++ request.trailing := by
  cases h : (config.toolFor preset).toolchain <;>
    simp [commandFor, Command.compose, Command.argv, Command.args, Tool.selector, h]

end Dispatch

/-- The command that a plan shows or starts. -/
def Plan.command? : Plan → Option Command
  | .show _ c | .start _ c => some c
  | _ => none

namespace Plan

/-- The command that a plan starts. -/
def toStart? : Plan → Option Command
  | .start _ c => some c
  | _ => none

theorem command?_of_toStart? {p : Plan} {c : Command} (h : p.toStart? = some c) :
    p.command? = some c := by
  cases p with
  | start notes d => exact h
  | refuse | fail | «show» => cases h

/-- Whatever the system answers, the command that is started is the one that is planned. -/
theorem started_finish (p : Plan) (answer : Command → Except OsError WaitStatus) :
    (p.finish answer).started = p.toStart? := by
  cases p with
  | refuse r inColour =>
    change (if r.exitCode = 0 then _ else _ : Ending).started = none
    split <;> rfl
  | fail f => rfl
  | «show» notes c => rfl
  | start notes c =>
    change (Ending.ofResult _ _ (some c) (c.judge (answer c))).started = some c
    cases c.judge (answer c) <;> rfl

end Plan

namespace Dispatch

open CommandLine (Invocation Refusal)

variable {words : List Bytes} {block : EnvironmentBlock} {file : FileState}

/-- The plans that a run can come to, each with what leads to it. -/
inductive Course (words : List Bytes) (block : EnvironmentBlock) (file : FileState) : Plan → Prop
  | refused {r : Refusal} (parse : CommandLine.parse words = .error r) :
    Course words block file (.refuse r (asksForColour block))
  | emptyAction {i : Invocation} (parse : CommandLine.parse words = .ok i)
      (action : i.action = []) :
    Course words block file (.fail (.request .emptyAction))
  | unusable {i : Invocation} {e : LoadError} (parse : CommandLine.parse words = .ok i)
      (action : i.action ≠ []) (load : Config.load configPath file = .error e) :
    Course words block file (.fail (.load e))
  | shown {i : Invocation} {request : Request} {config : Config} (notes : List Note)
      (parse : CommandLine.parse words = .ok i) (split : Request.ofWords i.tokens = .ok request)
      (load : Config.load configPath file = .ok config) (dryRun : i.dryRun = true) :
    Course words block file
      (.show notes (commandFor config (presetFor i config) request block.environment))
  | started {i : Invocation} {request : Request} {config : Config} (notes : List Note)
      (parse : CommandLine.parse words = .ok i) (split : Request.ofWords i.tokens = .ok request)
      (load : Config.load configPath file = .ok config) (dryRun : i.dryRun = false) :
    Course words block file
      (.start notes (commandFor config (presetFor i config) request block.environment))

/-- Words of which the first is an empty text are no request. -/
theorem ofWords_tokens_of_empty {i : Invocation} (h : i.action = []) :
    Request.ofWords i.tokens = .error .emptyAction := by
  rw [CommandLine.Invocation.tokens, h]
  rfl

theorem course_plan (words : List Bytes) (block : EnvironmentBlock) (file : FileState) :
    Course words block file (plan words block file) := by
  unfold plan
  cases hParse : CommandLine.parse words with
  | error r => exact .refused hParse
  | ok i =>
    simp only [planInvocation]
    by_cases hAction : i.action = []
    · rw [ofWords_tokens_of_empty hAction]
      exact .emptyAction hParse hAction
    · obtain ⟨request, hRequest⟩ := (CommandLine.exists_request_of_parse hParse).mpr hAction
      simp only [hRequest]
      cases hLoad : Config.load configPath file with
      | error e => exact .unusable hParse hAction hLoad
      | ok config =>
        cases hDry : i.dryRun with
        | true => exact .shown _ hParse hRequest hLoad hDry
        | false => exact .started _ hParse hRequest hLoad hDry

namespace Course

variable {p : Plan}

/-- A command is composed from an accepted command line, its request and a configuration. -/
theorem command?_eq_some (h : Course words block file p) {c : Command} :
    p.command? = some c ↔
      ∃ i request config, CommandLine.parse words = .ok i ∧
        Request.ofWords i.tokens = .ok request ∧ Config.load configPath file = .ok config ∧
        c = commandFor config (presetFor i config) request block.environment := by
  constructor
  · intro hc
    cases h with
    | refused | emptyAction | unusable => cases hc
    | shown notes parse split load | started notes parse split load =>
      cases hc
      exact ⟨_, _, _, parse, split, load, rfl⟩
  · rintro ⟨i, request, config, hParse, hRequest, hLoad, rfl⟩
    cases h with
    | refused parse => cases parse.symm.trans hParse
    | emptyAction parse action =>
      cases parse.symm.trans hParse
      cases (ofWords_tokens_of_empty action).symm.trans hRequest
    | unusable parse action load =>
      cases parse.symm.trans hParse
      cases load.symm.trans hLoad
    | shown notes parse split load | started notes parse split load =>
      cases parse.symm.trans hParse
      cases split.symm.trans hRequest
      cases load.symm.trans hLoad
      rfl

end Course

end Dispatch

end BuildDispatch
