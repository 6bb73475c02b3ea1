import BuildDispatch.Host.Programs.Carrying
import BuildDispatch.Host.Programs.Columns
import BuildDispatch.Host.Programs.Comparing
import BuildDispatch.Host.Programs.Deciding
import BuildDispatch.Host.Programs.Deferring
import BuildDispatch.Host.Programs.Dumping
import BuildDispatch.Host.Programs.Editing
import BuildDispatch.Host.Programs.Expression
import BuildDispatch.Host.Programs.Formatting
import BuildDispatch.Host.Programs.Lines
import BuildDispatch.Host.Programs.Listing
import BuildDispatch.Host.Programs.Packing
import BuildDispatch.Host.Programs.Printing
import BuildDispatch.Host.Programs.Replacing
import BuildDispatch.Host.Programs.Reporting
import BuildDispatch.Host.Programs.Searching
import BuildDispatch.Host.Programs.Sorting
import BuildDispatch.Host.Programs.Storage
import BuildDispatch.Host.Programs.Surroundings
import BuildDispatch.Host.Programs.Walking

/-!
The small programs of the system, by name.
-/

namespace BuildDispatch.Host.Programs

/-- A program that does nothing, and ends with a status. -/
def still (status : Nat) (g : Given) : Effect := g.done status [] []

/-- Lets time pass, which nothing here depends on. -/
def pause : Given → Effect := withOperands ⟨"", "", "", []⟩ "operand" fun g _ words =>
  let wrong := words.filter (!isInterval ·)
  if wrong.isEmpty then g.done 0 [] []
  else
    let complaints := wrong.flatMap fun w =>
      complaintOf g.called (.ofText "invalid time interval " ++ inQuotes w)
    g.done 1 [] (complaints ++ hint g.called ++ line "")

/-- The programs that run no others. -/
def table : List (String × (Given → Effect)) := [
  ("echo", echo), ("printf", formatWords), ("printenv", printenv), ("cat", cat), ("seq", countUp),
  ("true", still 0), ("false", still 1), ("test", decideCondition false),
  ("[", decideCondition true), ("expr", express), ("sleep", pause), ("basename", lastName),
  ("dirname", directoryName), ("which", locate), ("tty", terminal), ("uname", system),
  ("pwd", showPlace), ("touch", touch), ("rm", remove), ("rmdir", removeDirectory),
  ("chmod", changeMode), ("mkdir", makeDirectory), ("tee", tee), ("ls", list),
  ("cp", carry false), ("mv", carry true), ("wc", count), ("head", head), ("tail", tail),
  ("sort", sort), ("uniq", unique), ("tac", reverseLines), ("rev", reverseBytes),
  ("nl", numberLines), ("grep", search false false), ("egrep", search true false),
  ("fgrep", search false true), ("tr", replaceBytes), ("cut", cut), ("sed", edit),
  ("awk", reportOn), ("mawk", reportOn), ("od", dump),
  ("paste", paste), ("fold", foldLines), ("cmp", compareFiles), ("comm", common),
  ("base64", pack), ("find", walk)]

/-- A program of this name that runs no others. -/
def named? (name : Bytes) : Option (Given → Effect) :=
  (table.find? fun program => Bytes.ofText program.1 = name).map (·.2)

end BuildDispatch.Host.Programs
