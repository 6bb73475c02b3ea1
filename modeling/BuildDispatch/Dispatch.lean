import BuildDispatch.Command.Rendering
import BuildDispatch.CommandLine.Help
import BuildDispatch.Failure

/-!
A whole run, from the words of a command line to an exit code.  `plan` decides everything up to the
point where a process would be started; `Plan.finishWith` carries it out, and `Plan.finish` does so
with known answers of the operating system.  At most one process is started, and none unless the
plan says so.
-/

namespace BuildDispatch

/-- A line of information in a verbose run. -/
inductive Note where
  | config (source : Option String)
  | preset (p : Preset)
  | noPolicy (action : String) (known : List String)
  | running (c : Command)

/-- The line of a note, without its end. -/
def Note.text : Note → String
  | .config source => "[info] Config: " ++ source.getD "built-in defaults"
  | .preset p => "[info] Preset: " ++ p.name
  | .noPolicy action known =>
    "[info] No policy for `" ++ action ++ "` (known: " ++ ", ".intercalate known
      ++ "), passing through"
  | .running c => "[info] Running: " ++ c.render

/-- What a run will do. -/
inductive Plan where
  /-- The command line is not run, and a text says why. -/
  | refuse (r : CommandLine.Refusal) (inColour : Bool)
  /-- The run fails before a command is composed. -/
  | fail (f : Failure)
  /-- The command is shown and not run. -/
  | show (notes : List Note) (c : Command)
  /-- The command is run. -/
  | start (notes : List Note) (c : Command)

namespace Dispatch

/-- The file that settings are read from. -/
def configPath : String := "x.toml"

/-- The variable that asks for a verbose run, unless it is empty or `0`. -/
def verboseVariable : Bytes := .ofText "X_VERBOSE"

/-- Whether the environment asks for a verbose run. -/
def asksForVerbosity (block : EnvironmentBlock) : Bool :=
  match block.value? verboseVariable with
  | some value => !value.isEmpty && value != Bytes.ofText "0"
  | none => false

/-- Whether a variable is there and not empty. -/
def isSet (block : EnvironmentBlock) (name : String) : Bool :=
  !((block.value? (.ofText name)).getD []).isEmpty

/-- Whether the environment asks for colours where no terminal would show them. -/
def asksForColour (block : EnvironmentBlock) : Bool :=
  isSet block "CLICOLOR_FORCE" && !isSet block "NO_COLOR"

/-- Whether a run is verbose: by its command line, its configuration or its environment. -/
def isVerbose (i : CommandLine.Invocation) (config : Config) (block : EnvironmentBlock) : Bool :=
  i.verbose || config.verbose || asksForVerbosity block

/-- The preset in force: of the command line, else of the configuration, else the fallback. -/
def presetFor (i : CommandLine.Invocation) (config : Config) : Preset :=
  (i.preset.or config.preset).getD .fallback

/-- The policy in force for an action. -/
def policyFor (config : Config) (preset : Preset) (action : String) : ActionPolicy :=
  (config.policyTable preset).resolve action

/-- The command for a request. -/
def commandFor (config : Config) (preset : Preset) (request : Request) (env : Environment) :
    Command :=
  .compose (config.toolFor preset) request (policyFor config preset request.action) env

/-- The notes of a verbose run before its command is shown or run. -/
def notesFor (config : Config) (preset : Preset) (action : String) : List Note :=
  [.config config.source, .preset preset]
    ++ if (policyFor config preset action).isEmpty then
        [.noPolicy action (config.policyTable preset).actions]
      else []

/-- The plan for an accepted command line.  The request is judged before the configuration. -/
def planInvocation (i : CommandLine.Invocation) (block : EnvironmentBlock) (file : FileState) :
    Plan :=
  match Request.ofWords i.tokens with
  | .error e => .fail (.request e)
  | .ok request =>
    match Config.load configPath file with
    | .error e => .fail (.load e)
    | .ok config =>
      let preset := presetFor i config
      let command := commandFor config preset request block.environment
      let verbose := isVerbose i config block
      let notes := if verbose then notesFor config preset request.action else []
      if i.dryRun then .show notes command
      else .start (notes ++ if verbose then [.running command] else []) command

/-- The plan for the words of a command line, the block of an environment and the state of the
configuration file. -/
def plan (words : List Bytes) (block : EnvironmentBlock) (file : FileState) : Plan :=
  match CommandLine.parse words with
  | .error r => .refuse r (asksForColour block)
  | .ok i => planInvocation i block file

end Dispatch

/-- How a run ended: its own output, the process it started, and its exit code. -/
structure Ending where
  exitCode : Nat
  stdout : String
  /-- What the run itself wrote to the error stream before any process started. -/
  notes : String
  started : Option Command
  failure : Option Failure

/-- Notes, one on a line. -/
def Note.lines (notes : List Note) : String := CommandLine.lines (notes.map Note.text)

/-- The ending of a run that has come to success or failure. -/
def Ending.ofResult (stdout notes : String) (started : Option Command) :
    Except Failure Unit → Ending
  | .ok () => ⟨0, stdout, notes, started, none⟩
  | .error f => ⟨1, stdout, notes, started, some f⟩

namespace Plan

/-- Carries out a plan where `spawn` starts a command and waits for its end. -/
def finishWith {m : Type → Type} [Monad m] (p : Plan)
    (spawn : Command → m (Except OsError WaitStatus)) : m Ending :=
  match p with
  | .refuse r inColour =>
    let text := r.text inColour
    return if r.exitCode = 0 then ⟨0, text, "", none, none⟩ else ⟨r.exitCode, "", text, none, none⟩
  | .fail f => return .ofResult "" "" none (.error f)
  | .show notes c => return .ofResult (c.render ++ "\n") (Note.lines notes) none (.ok ())
  | .start notes c => return .ofResult "" (Note.lines notes) (some c) (c.judge (← spawn c))

/-- Carries out a plan; `answer` is what the operating system says to starting a command. -/
def finish (p : Plan) (answer : Command → Except OsError WaitStatus) : Ending :=
  Id.run (p.finishWith fun c => pure (answer c))

end Plan

end BuildDispatch
