import BuildDispatch.Host.Programs.Basic

/-!
Programs that copy files and directories, or move them.
-/

namespace BuildDispatch.Host.Programs

/-- How files are carried to another place. -/
structure Carrying where
  /-- The name under which complaints are made. -/
  called : Bytes
  /-- Whether nothing is left at the old place. -/
  moves : Bool
  /-- Whether directories are copied. -/
  isDeep : Bool
  /-- Whether what is there already stays. -/
  keeps : Bool
  /-- Whether all that is carried is told. -/
  tells : Bool

/-- Where a file goes that is copied or moved: into a directory under its own name, and else to the
path that is given. -/
def destination (files : Files) (source target : Bytes) : Bytes :=
  match files.lookup target, (components source).getLast? with
  | .ok .directory, some name =>
    if target.getLast? = some slash then target ++ name else target ++ slash :: name
  | _, _ => target

namespace Carrying

/-- A complaint about a path in quotes, with a reason. -/
def refuse {α : Type} (c : Carrying) (what : String) (path : Bytes) (reason : String) :
    Except Bytes α :=
  .error (objection c.called what (inShellQuotes path) reason)

/-- A complaint about two paths in quotes, between other words. -/
def refuseBoth {α : Type} (c : Carrying) (front : String) (a : Bytes) (between : String) (b : Bytes)
    (behind : String) : Except Bytes α :=
  .error (complaintOf c.called (.ofText front ++ inShellQuotes a ++ .ofText between
    ++ inShellQuotes b ++ .ofText behind))

/-- What is told of something that was carried. -/
def told (c : Carrying) (source path : Bytes) : Bytes :=
  if c.tells then
    .ofText (if c.moves then "renamed " else "") ++ inShellQuotes source ++ .ofText " -> "
      ++ inShellQuotes path ++ .ofText "\n"
  else []

/-- Carries a directory to a path. -/
def directory (c : Carrying) (files : Files) (origin : Place) (source path : Bytes) :
    Except Bytes (Bytes × Files) :=
  match origin, files.lookup path, files.resolve path with
  | .inside old, .ok .directory, .ok (.inside new) =>
    if old = new && !c.moves then
      c.refuseBoth "" source " and " path " are the same file"
    else if old.isPrefixOf new then itself
    else if c.moves && !(files.names (.inside new)).isEmpty then
      c.refuse "cannot overwrite " path "Directory not empty"
    else .ok (put files old new)
  | _, .ok _, _ =>
    c.refuseBoth "cannot overwrite non-directory " path " with directory " source ""
  | .inside old, _, .ok (.inside new) =>
    if old.isPrefixOf new then itself else .ok (put files old new)
  | _, _, .error e =>
    if c.moves then c.refuseBoth "cannot move " source " to " path (": " ++ e.reason)
    else c.refuse "cannot create directory " path e.reason
  | _, _, _ => c.refuse "cannot create directory " path "Permission denied"
where
  /-- A directory cannot go into itself. -/
  itself : Except Bytes (Bytes × Files) :=
    if c.moves then c.refuseBoth "cannot move " source " to a subdirectory of itself, " path ""
    else c.refuseBoth "cannot copy a directory, " source ", into itself, " path ""
  /-- The files with the directory at its new place. -/
  put (files : Files) (old new : Path) : Bytes × Files :=
    let copied := files.copyTree old new
    (c.told source path, if c.moves then copied.remove old else copied)

/-- Carries a file to a path. -/
def file (c : Carrying) (files : Files) (origin : Place) (content source path : Bytes) :
    Except Bytes (Bytes × Files) :=
  let exists? := (files.lookup path).isOk
  if c.keeps && exists? then
    if c.moves then .error (complaintOf c.called (.ofText "not replacing " ++ inShellQuotes path))
    else .ok ([], files)
  else
    match files.placeToWrite path with
    | .ok place =>
      if place = origin then c.refuseBoth "" source " and " path " are the same file"
      else
        let written := files.write content place
        let written := match place with
          | .inside new =>
            if c.moves || !exists? then written.setRunnable (files.isRunnable source) new
            else written
          | _ => written
        .ok (c.told source path, match c.moves, origin with
          | true, .inside old => written.remove old
          | _, _ => written)
    | .error .isADirectory =>
      if files.lookup path matches .ok .directory then
        .error (complaintOf c.called (.ofText "cannot overwrite directory " ++ inShellQuotes path
          ++ .ofText " with non-directory"))
      else cannot "Not a directory"
    | .error e => cannot e.reason
where
  /-- The file cannot be made at the path. -/
  cannot (reason : String) : Except Bytes (Bytes × Files) :=
    if c.moves then c.refuseBoth "cannot move " source " to " path (": " ++ reason)
    else c.refuse "cannot create regular file " path reason

/-- Carries what is at one path to another. -/
def one (c : Carrying) (files : Files) (source path : Bytes) : Except Bytes (Bytes × Files) :=
  match files.lookup source, files.resolve source with
  | .error e, _ | _, .error e => c.refuse "cannot stat " source e.reason
  | .ok .directory, .ok origin =>
    if c.moves || c.isDeep then c.directory files origin source path
    else .error (complaintOf c.called
      (.ofText "-r not specified; omitting directory " ++ inShellQuotes source))
  | .ok (.file content), .ok origin => c.file files origin content source path
  | .ok (.program _), .ok origin => c.file files origin [] source path

end Carrying

/-- Copies or moves files. -/
def carry (moves : Bool) : Given → Effect :=
  withOptions ⟨"fprRavnTu", "t", "", [("recursive", 'r'), ("verbose", 'v'), ("no-clobber", 'n'),
    ("force", 'f'), ("archive", 'a'), ("target-directory", 't'), ("no-target-directory", 'T')]⟩ 1
    fun g o words =>
  let c : Carrying := ⟨g.called, moves, o.has 'r' || o.has 'R' || o.has 'a', o.has 'n', o.has 'v'⟩
  let warning : Bytes :=
    if !moves && o.has 'n' then
      complaintOf g.called (.ofText ("warning: behavior of -n is non-portable and may change in"
        ++ " future; use --update=none instead"))
    else []
  let warned (e : Effect) : Effect := { e with stderr := warning ++ e.stderr }
  let directory := (o.values 't').getLast?
  let isDirectory (word : Bytes) : Bool := g.files.lookup word matches .ok .directory
  let reason (word : Bytes) : String := match g.files.lookup word with
    | .error e => e.reason
    | .ok _ => "Not a directory"
  let target := directory.getD (words.getLastD [])
  let sources := if directory.isSome then words else words.dropLast
  warned <| match words with
  | [] => g.misused 1 (.ofText "missing file operand")
  | first :: more =>
    if directory.isNone && more.isEmpty then
      g.misused 1 (.ofText "missing destination file operand after " ++ inShellQuotes first)
    else if o.has 'T' && 1 < sources.length then
      g.misused 1 (.ofText "extra operand " ++ inShellQuotes (words.getD 2 []))
    else if directory.isSome && !isDirectory target then
      g.done 1 [] (objection g.called "target directory " (inShellQuotes target) (reason target))
    else if 1 < sources.length && !isDirectory target then
      g.done 1 [] (objection g.called "target " (inShellQuotes target) (reason target))
    else g.forEach 1 sources fun files source =>
      c.one files source (if o.has 'T' then target else destination files source target)

end BuildDispatch.Host.Programs
