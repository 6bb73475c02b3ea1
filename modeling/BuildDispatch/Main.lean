import BuildDispatch.Host

/-!
The program.  It makes a plan from the words of its command line, its environment and the
configuration file, gathers the files and the input that the plan needs, carries it out, and writes
what came of it.
-/

namespace BuildDispatch.Program

/-- The parts of a file of the system, each of which a NUL byte ends. -/
def nulEndedParts (path : String) : IO (List Bytes) := do
  let content := (← IO.FS.readBinFile path).toList
  return (Host.splitOn 0 content).dropLast

/-- The words behind the name of the program. -/
def commandWords : IO (List Bytes) := return (← nulEndedParts "/proc/self/cmdline").drop 1

/-- The environment of the program, as it was handed over. -/
def environmentBlock : IO EnvironmentBlock := return ⟨← nulEndedParts "/proc/self/environ"⟩

/-- The cause of a failure to read a file, `none` if there is no such file. -/
def cause? : IO.Error → Option OsError
  | .noFileOrDirectory .. => none
  | .permissionDenied .. => some .permissionDenied
  | .inappropriateType .. => some .isADirectory
  | _ => some .notText

/-- The state of a file of the system. -/
def fileState (path : String) : IO FileState := do
  try return .holds (← IO.FS.readBinFile path).toList
  catch e =>
    match cause? e with
    | none => return .absent
    | some cause => return .unreadable cause

/-- The file that a word names, if it names one that can be read. -/
def namedFile (word : Bytes) : IO (Option (Bytes × Host.Entry)) := do
  match word.text? with
  | none => return none
  | some path =>
    match ← fileState path with
    | .holds content => return some (word, .file content)
    | .unreadable .isADirectory => return some (word, .directory)
    | _ => return none

/-- The rest of a stream. -/
partial def rest (s : IO.FS.Stream) : IO Bytes := do
  let b ← s.read 4096
  if b.isEmpty then return []
  return b.toList ++ (← rest s)

/-- What a plan needs from around the program: nothing, unless a command is to be run. -/
def hostFor : Plan → IO Host
  | .start _ c => do
    return ⟨.ofList (← c.argv.filterMapM namedFile), ← rest (← IO.getStdin)⟩
  | _ => return ⟨.ofList [], []⟩

/-- Writes the files that have changed. -/
def writeFiles (before after : Host.Files) : IO Unit := do
  for (path, entry) in after.entries do
    unless before.entries.contains (path, entry) do
      match entry, Bytes.text? ([Host.slash].intercalate path) with
      | .file content, some name => IO.FS.writeBinFile name ⟨content.toArray⟩
      | _, _ => pure ()

end BuildDispatch.Program

open BuildDispatch in
/-- Makes a plan, carries it out, and gives its exit code back. -/
def main : IO UInt32 := do
  let words ← Program.commandWords
  let block ← Program.environmentBlock
  let plan := Dispatch.plan words block (← Program.fileState Dispatch.configPath)
  let host ← Program.hostFor plan
  let outcome := host.carryOut plan
  (← IO.getStdout).write ⟨outcome.stdout.toArray⟩
  (← IO.getStderr).write ⟨outcome.fullStderr.toArray⟩
  Program.writeFiles host.files outcome.files
  return outcome.ending.exitCode.toUInt32
