import BuildDispatch.Host.Programs.Basic

/-!
What programs do when nothing can be written to their output: most complain about it at their end,
and their status tells of it.
-/

namespace BuildDispatch.Host

namespace Programs

/-- The statuses of programs that could not write, other than one. -/
def unwrittenStatuses : List (String × Nat) := [
  ("ls", 2), ("grep", 2), ("egrep", 2), ("fgrep", 2), ("sort", 2), ("awk", 2), ("mawk", 2),
  ("cmp", 2), ("printenv", 2), ("expr", 3), ("tty", 3), ("sed", 4), ("env", 125), ("nice", 125)]

/-- What a program says about output that it could not write. -/
def unwrittenComplaint (name : String) (called : Bytes) (reason : OsError) : Bytes :=
  let isClosed := reason = .badDescriptor
  let because := ": " ++ reason.reason
  let complaint (s : String) : Bytes := complaintOf called (.ofText s)
  if name = "sort" then
    complaint ("fflush failed: 'standard output'" ++ because) ++ complaint "write error"
  else if name = "sed" then
    complaint ((if isClosed then "couldn't close stdout" else "couldn't flush stdout") ++ because)
  else if name = "awk" || name = "mawk" then
    complaint ("close failed on file \"/dev/stdout\" (" ++ reason.reason ++ ")")
  else if name = "tee" then complaint ("'standard output'" ++ because)
  else if name = "cmp" then complaint ("standard output" ++ because)
  else if name = "find" then
    complaint ("'standard output'" ++ because)
      ++ complaint (if isClosed then "write error" ++ because else "write error")
  else if name = "which" then
    complaintOf (.ofText "/usr/bin/which: 13: printf") (.ofText "printf: I/O error")
  else if name = "egrep" || name = "fgrep" then
    complaintOf (.ofText "grep") (.ofText ("write error" ++ because))
  else if (name = "wc" || name = "rmdir") && !isClosed then complaint "write error"
  else complaint ("write error" ++ because)

end Programs

/-- What becomes of what a program has done if it could not write its output.  Some programs notice
an output that is closed even if there is nothing to write, and some never. -/
def Effect.unwritten (e : Effect) (name : String) (called : Bytes) (reason : OsError) : Effect :=
  let isClosed := reason = .badDescriptor
  let notices :=
    if e.stdout.isEmpty then isClosed && ["sed", "awk", "mawk"].contains name
    else !(isClosed && ["cmp", "rev"].contains name)
  if notices then
    { e with
      stdout := []
      stderr := e.stderr ++ Programs.unwrittenComplaint name called reason
      status := (Programs.unwrittenStatuses.lookup name).getD 1 }
  else { e with stdout := [] }

/-- Runs a program whose output goes nowhere. -/
def Programs.runUnwritten (name : String) (program : Given → Effect) (g : Given)
    (reason : OsError) : Effect :=
  if name = "cat" && reason = .badDescriptor then
    g.done 1 [] (complaintOf g.called (.ofText ("standard output: " ++ reason.reason)))
  else (program g).unwritten name g.called reason

end BuildDispatch.Host
