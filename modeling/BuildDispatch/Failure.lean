import BuildDispatch.Command
import BuildDispatch.Config.File
import BuildDispatch.Request
import BuildDispatch.WaitStatus

/-!
The failures of a run, each with the chain of its causes, and the report that ends a failed run.
-/

namespace BuildDispatch

/-- Why an accepted command line failed. -/
inductive Failure where
  | request (e : RequestError)
  | load (e : LoadError)
  | notStarted (program : String) (e : OsError)
  | childFailed (program action : String) (status : WaitStatus)
  deriving Repr

namespace Failure

/-- What went wrong, and then, if something else is behind it, the cause. -/
def chain : Failure → String × Option String
  | .request e => (e.message, none)
  | .load (.read path e) => ("Failed to read " ++ path, some e.message)
  | .load (.parse path e) => ("Failed to parse " ++ path, some e.message)
  | .notStarted program e => ("Failed to run `" ++ program ++ "`", some e.message)
  | .childFailed program action status =>
    ("`" ++ program ++ " " ++ action ++ "` failed (" ++ status.text ++ ")", none)

/-- The failure on one line, its cause behind a colon. -/
def message (f : Failure) : String :=
  match f.chain with
  | (head, none) => head
  | (head, some cause) => head ++ ": " ++ cause

/-- A text whose lines are indented by four blanks. -/
def indented (s : String) : String :=
  String.ofList (s.toList.flatMap fun c => if c = '\n' then "\n    ".toList else [c])

/-- The report at the end of a failed run. -/
def report (f : Failure) : String :=
  match f.chain with
  | (head, none) => "Error: " ++ head ++ "\n"
  | (head, some cause) => "Error: " ++ head ++ "\n\nCaused by:\n    " ++ indented cause ++ "\n"

end Failure

namespace Command

/-- Judges how the process of a command ended. -/
def check (c : Command) (status : WaitStatus) : Except Failure Unit :=
  if status.isSuccess then .ok ()
  else .error (.childFailed c.program.lossyText c.action.lossyText status)

/-- Judges an attempt to run a command: it may not even start. -/
def judge (c : Command) : Except OsError WaitStatus → Except Failure Unit
  | .error e => .error (.notStarted c.program.lossyText e)
  | .ok status => c.check status

end Command

end BuildDispatch
