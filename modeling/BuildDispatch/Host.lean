import BuildDispatch.Command.Process
import BuildDispatch.Dispatch
import BuildDispatch.Host.Search
import BuildDispatch.Host.Shell.Running

/-!
A host to run on: files and the input of the run.  `start` answers a command as the operating system
does, and `run` is a whole run on a host.  What becomes of a process that is started is a parameter
of both; the `standard` behaviour knows a handful of programs.
-/

namespace BuildDispatch

/-- What a run finds around it. -/
structure Host where
  files : Host.Files
  stdin : Bytes

namespace Host

/-- What a process that could be started did. -/
structure Finished where
  status : WaitStatus
  stdout : Bytes
  stderr : Bytes
  files : Files

/-- What becomes of the processes that are started on a host: the system has no way to start one, or
it runs to its end. -/
abbrev Behaviour := Host → Process → Except OsError Finished

/-- The program of a process, which is sought along the search path of the process. -/
def programOf (files : Files) (p : Process) : Except OsError Program :=
  findProgram files (p.env.get? (.ofText "PATH")) p.program

/-- Runs a program that runs others on its words. -/
def runShell (h : Host) (program : Program) (env : Environment) (words : List Bytes) : Finished :=
  let block := env.entries
  let sh := Shell.start program.called [] block Shell.outerProcess h.stdin h.files
  let (e, sh) := sh.runToEnd program block words
  let status : WaitStatus := match e with
    | .status n => .ofExitCode n
    | .signal n => .ofSignal n
  ⟨status, sh.outputs.getD 0 [], sh.outputs.getD 1 [], { sh.files with here := h.files.here }⟩

/-- The longest text that can be handed to a process: an argument, or a variable with its name and
an equals sign. -/
def maxTextLength : Nat := 131071

/-- Whether all that a process is to be given can be handed to it. -/
def isWithinLimits (p : Process) : Bool :=
  (p.program :: p.args).all (·.length ≤ maxTextLength) &&
    p.env.block.strings.all (·.length ≤ maxTextLength)

/-- The program of a process is sought before it is given anything, and runs as one of those that
are known, or as a shell does. -/
def standard : Behaviour := fun h p => do
  let found ← programOf h.files p
  if !isWithinLimits p then throw .argumentsTooLong
  match Programs.named? found.name with
  | some program =>
    let files := { h.files with streams := [(0, .file h.stdin), (1, .pipe), (2, .pipe)] }
    let e := program ⟨found.called, found.front ++ p.args, p.env.entries, h.stdin, files⟩
    .ok ⟨.ofExitCode e.status, e.stdout, e.stderr, e.files⟩
  | none => .ok (runShell h found p.env p.args)

/-- Whether a NUL byte stands anywhere in what a process is to be given. -/
def holdsNul (c : Command) : Bool :=
  c.argv.any (·.contains 0) || c.env.entries.any fun (name, value) =>
    name.contains 0 || value.contains 0

/-- Starts a command and waits for its end. -/
def start (h : Host) (c : Command) (behaviour : Behaviour := standard) : Except OsError Finished :=
  if holdsNul c then .error .nulByte else behaviour h c.process

/-- The outcome of a run on a host: its ending, everything written, and the files behind it. -/
structure Outcome where
  ending : Ending
  stdout : Bytes
  /-- The error stream without the report of a failure. -/
  stderr : Bytes
  files : Files

/-- Carries out a plan on a host. -/
def carryOut (h : Host) (plan : Plan) (behaviour : Behaviour := standard) : Outcome :=
  let answer (c : Command) := h.start c behaviour
  let ending := plan.finish fun c => (answer c).map Finished.status
  let own (more : Bytes) : Bytes := .ofText ending.stdout ++ more
  let notes (more : Bytes) : Bytes := .ofText ending.notes ++ more
  match ending.started.map answer with
  | some (.ok done) => ⟨ending, own done.stdout, notes done.stderr, done.files⟩
  | _ => ⟨ending, own [], notes [], h.files⟩

/-- A whole run: the words of its command line, with the block of an environment, on a host. -/
def run (h : Host) (words : List Bytes) (block : EnvironmentBlock)
    (behaviour : Behaviour := standard) : Outcome :=
  let file := h.files.state (.ofText Dispatch.configPath)
  h.carryOut (Dispatch.plan words block file) behaviour

/-- The whole error stream, with the report of a failure at its end. -/
def Outcome.fullStderr (o : Outcome) : Bytes :=
  o.stderr ++ match o.ending.failure with
    | some f => .ofText f.report
    | none => []

end Host

end BuildDispatch
