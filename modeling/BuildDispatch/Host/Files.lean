import BuildDispatch.Config.File

/-!
The files a run can see: those below the directory it starts in, and the few places of the system
around it that a path can lead to.  Paths are resolved one component at a time, and every component
but the last must lead to a directory.
-/

namespace BuildDispatch.Host

/-- The components of a path, outermost first. -/
abbrev Path := List Bytes

/-- What is stored under a path. -/
inductive Entry where
  | file (content : Bytes)
  | directory
  deriving Repr, DecidableEq

/-- Where a path leads, whether or not something is there. -/
inductive Place where
  /-- Below the directory of the run. -/
  | inside (path : Path)
  /-- At an absolute path. -/
  | system (path : Path)
  deriving Repr, DecidableEq

/-- What a descriptor of a process leads to. -/
inductive Stream where
  /-- A file with this content. -/
  | file (content : Bytes)
  | pipe
  deriving Repr, DecidableEq

/-- The entries below the directory of a run, as a process sees them.  A directory with something in
it needs no entry. -/
structure Files where
  entries : List (Path × Entry)
  /-- The files that may be run. -/
  runnable : List Path
  /-- The working directory. -/
  here : Place
  /-- The descriptors that the process has. -/
  streams : List (Nat × Stream)
  deriving Repr, DecidableEq

/-- What is found at a place. -/
inductive Found where
  | directory
  | file (content : Bytes)
  | program (name : Bytes)
  deriving Repr, DecidableEq

/-- The byte between the components of a path. -/
def slash : UInt8 := 0x2F

/-- The parts of a byte string between separators; one more than there are separators. -/
def splitOn (separator : UInt8) : Bytes → List Bytes
  | [] => [[]]
  | b :: r =>
    match splitOn separator r with
    | [] => [[b]]
    | part :: parts => if b = separator then [] :: part :: parts else (b :: part) :: parts

/-- The components of a path; repeated slashes count as one. -/
def components (p : Bytes) : Path := (splitOn slash p).filter fun part => !part.isEmpty

/-- The longest name a directory can hold. -/
def maxNameLength : Nat := 255

/-- The longest path, as a whole, that the system takes. -/
def maxPathLength : Nat := 4095

/-- The programs of the system. -/
def programNames : List Bytes :=
  let names := ["sh", "dash", "env", "xargs", "echo", "printf", "printenv", "cat", "seq", "true",
    "false", "test", "[", "expr", "sleep", "basename", "dirname", "which", "tty", "uname", "pwd",
    "touch", "rm", "rmdir", "chmod", "mkdir", "tee", "ls", "cp", "mv", "wc", "head", "tail", "sort",
    "uniq", "tac", "rev", "nl", "grep", "egrep", "fgrep", "tr", "cut", "sed", "od", "paste", "fold",
    "cmp", "comm", "awk", "mawk", "base64", "find", "timeout", "nice", "nohup"]
  names.map Bytes.ofText

/-- The directories that hold the programs. -/
def programDirectories : List Path := [["bin"], ["usr", "bin"]].map (·.map Bytes.ofText)

/-- The directories of the system. -/
def systemDirectories : List Path :=
  let topLevel := ["usr", "etc", "dev", "tmp", "home", "root", "var", "proc"]
  [] :: topLevel.map (fun name => [Bytes.ofText name]) ++ programDirectories

/-- The file that swallows what is written and has nothing to read. -/
def nullDevice : Path := ["dev", "null"].map Bytes.ofText

/-- The file to which nothing can be written. -/
def fullDevice : Path := ["dev", "full"].map Bytes.ofText

/-- The descriptor that a path of the system stands for. -/
def descriptorOf? (p : Bytes) : Option Nat :=
  let named := [("/dev/stdin", 0), ("/dev/stdout", 1), ("/dev/stderr", 2)]
  let numbered := (List.range 10).flatMap fun n =>
    [("/dev/fd/" ++ toString n, n), ("/proc/self/fd/" ++ toString n, n)]
  (named ++ numbered).findSome? fun (path, n) => if Bytes.ofText path = p then some n else none

/-- The files of the system that stand for the input and the outputs of a program. -/
def streamDevices : List Path :=
  ["stdin", "stdout", "stderr"].map fun name => [Bytes.ofText "dev", Bytes.ofText name]

/-- What the system has at an absolute path. -/
def systemEntry? (p : Path) : Option Found :=
  if systemDirectories.contains p then some .directory
  else if p = nullDevice || p = fullDevice || streamDevices.contains p then some (.file [])
  else
    match p.getLast? with
    | some name =>
      if programDirectories.contains p.dropLast && programNames.contains name then
        some (.program name)
      else none
    | none => none

/-- The absolute path of the directory of a run. -/
def homeOfRun : Path := ["tmp", "run"].map Bytes.ofText

/-- The absolute path of a place. -/
def Place.absolute : Place → Bytes
  | .inside path => text (homeOfRun ++ path)
  | .system path => text path
where
  /-- A path as it is written from the top. -/
  text (path : Path) : Bytes :=
    if path.isEmpty then [slash] else path.flatMap fun part => slash :: part

namespace Files

/-- What is at a place. -/
def at? (files : Files) : Place → Option Found
  | .inside [] => some .directory
  | .inside path =>
    match files.entries.find? fun e => e.1 = path with
    | some (_, .file content) => some (.file content)
    | some (_, .directory) => some .directory
    | none =>
      if files.entries.any fun e => path.isPrefixOf e.1 then some .directory else none
  | .system path => systemEntry? path

/-- The place that a component leads to from a place, which must be a directory. -/
def enter (files : Files) (place : Place) (component : Bytes) : Except OsError Place :=
  match files.at? place with
  | none => .error .notFound
  | some .directory =>
    if maxNameLength < component.length then .error .nameTooLong
    else if component = .ofText "." then .ok place
    else
      let up := component = Bytes.ofText ".."
      match place with
      | .inside [] => .ok (if up then .system homeOfRun.dropLast else .inside [component])
      | .inside path => .ok (.inside (if up then path.dropLast else path ++ [component]))
      | .system path =>
        let path := if up then path.dropLast else path ++ [component]
        .ok (if path = homeOfRun then .inside [] else .system path)
  | some _ => .error .notADirectory

/-- The place that a path leads to. -/
def resolve (files : Files) (p : Bytes) : Except OsError Place :=
  if p.isEmpty then .error .notFound
  else if p.contains 0 then .error .nulByte
  else if maxPathLength < p.length then .error .nameTooLong
  else
    let start : Place := if p.head? = some slash then .system [] else files.here
    (components p).foldlM files.enter start

/-- What is at a path.  A slash at the end asks for a directory. -/
def lookup (files : Files) (p : Bytes) : Except OsError Found := do
  match (descriptorOf? p).map (fun n => files.streams.lookup n) with
  | some none => .error .notFound
  | some (some (.file content)) => .ok (.file content)
  | some (some .pipe) => .ok (.file [])
  | none =>
    match files.at? (← files.resolve p) with
    | none => .error .notFound
    | some .directory => .ok .directory
    | some found => if p.getLast? = some slash then .error .notADirectory else .ok found

/-- The stream that a path stands for, if it stands for one that is there. -/
def stream? (files : Files) (p : Bytes) : Option Stream :=
  (descriptorOf? p).bind fun n => files.streams.lookup n

/-- The state of the file at a path, as a reader of settings sees it. -/
def state (files : Files) (p : Bytes) : FileState :=
  match files.lookup p with
  | .error _ => .absent
  | .ok .directory => .unreadable .isADirectory
  | .ok (.program _) => .unreadable .notText
  | .ok (.file content) => .holds content

/-- The files with an entry under a path below the directory of the run. -/
def set (files : Files) (path : Path) (entry : Entry) : Files :=
  if files.entries.any fun e => e.1 = path then
    { files with entries := files.entries.map fun e => if e.1 = path then (path, entry) else e }
  else { files with entries := files.entries ++ [(path, entry)] }

/-- The files without what is at a path and below it; the directory around it stays. -/
def remove (files : Files) (path : Path) : Files :=
  let left := { files with
    entries := files.entries.filter fun e => !path.isPrefixOf e.1
    runnable := files.runnable.filter fun p => !path.isPrefixOf p }
  if (left.at? (.inside path.dropLast)).isSome then left else left.set path.dropLast .directory

/-- Lets the file at a path be run, or forbids it. -/
def setRunnable (files : Files) (may : Bool) (path : Path) : Files :=
  let others := files.runnable.filter (· != path)
  { files with runnable := if may then path :: others else others }

/-- The files with a copy of the directory at a path, and of all below it, under another path. -/
def copyTree (files : Files) (origin target : Path) : Files :=
  let below := files.entries.filter fun e => origin.isPrefixOf e.1 && origin.length < e.1.length
  let moved (path : Path) : Path := target ++ path.drop origin.length
  let start := if (files.at? (.inside target)).isSome then files else files.set target .directory
  below.foldl (fun files e =>
    (files.set (moved e.1) e.2).setRunnable (files.runnable.contains e.1) (moved e.1)) start

/-- The place of a file that may be written to.  A slash at the end asks for a directory. -/
def placeToWrite (files : Files) (p : Bytes) : Except OsError Place := do
  let place ← files.resolve p
  let asksForDirectory := p.getLast? = some slash
  match place, files.at? place with
  | _, some .directory => .error .isADirectory
  | _, some (.program _) => .error .permissionDenied
  | _, some (.file _) => if asksForDirectory then .error .isADirectory else .ok place
  | .inside _, none => if asksForDirectory then .error .isADirectory else .ok place
  | _, none => .error .permissionDenied

/-- Gives a file new content; what is not below the directory of the run stays as it is. -/
def write (files : Files) (content : Bytes) : Place → Files
  | .inside path => files.set path (.file content)
  | _ => files

/-- Writes behind the content of a file. -/
def append (files : Files) (content : Bytes) (place : Place) : Files :=
  match files.at? place with
  | some (.file before) => files.write (before ++ content) place
  | _ => files.write content place

/-- Writes into a file that is there, from a position on or behind its content.  Zero bytes fill the
way to a position behind the content. -/
def writeInto (files : Files) (position : Option Nat) (content : Bytes) (place : Place) : Files :=
  match files.at? place with
  | some (.file before) =>
    let position := position.getD before.length
    let front := before.take position
    let gap : Bytes := List.replicate (position - before.length) 0
    files.write (front ++ gap ++ content ++ before.drop (position + content.length)) place
  | _ => files

/-- The names in a directory, each once, in the order of their bytes. -/
def names (files : Files) : Place → List Bytes
  | .inside path =>
    let below := files.entries.filterMap fun e =>
      if path.isPrefixOf e.1 then (e.1.drop path.length).head? else none
    (below.mergeSort fun a b => decide (a ≤ b)).eraseDups
  | _ => []

/-- Changes the working directory. -/
def enterDirectory (files : Files) (p : Bytes) : Except OsError Files := do
  let place ← files.resolve p
  match files.at? place, place with
  | none, _ => .error .notFound
  | some .directory, place => .ok { files with here := place }
  | some _, _ => .error .notADirectory

/-- Whether the file at a path below the directory of the run may be run. -/
def isRunnable (files : Files) (p : Bytes) : Bool :=
  match files.resolve p with
  | .ok (.inside path) => files.runnable.contains path
  | _ => false

/-- Whether a path leads below the directory of the run. -/
def isOwn (files : Files) (p : Bytes) : Bool := files.resolve p matches .ok (.inside _)

/-- The content of the file at a path, if it is one. -/
def content? (files : Files) (p : Bytes) : Option Bytes :=
  match files.lookup p with
  | .ok (.file content) => some content
  | _ => none

/-- The path that written components lead to, starting from another path, and the directories that
must be there because the way leads through them and back. -/
def way : Path → List Bytes → Path × List Path
  | path, [] => (path, [])
  | path, part :: rest =>
    if part = Bytes.ofText "." then way path rest
    else if part = Bytes.ofText ".." then
      let (target, passed) := way path.dropLast rest
      (target, path :: passed)
    else way (path ++ [part]) rest

/-- Files from paths as they are written, put in place one after the other. -/
def ofList (l : List (Bytes × Entry)) : Files :=
  l.foldl (fun files (p, entry) =>
    let (path, passed) := way [] (components p)
    let files := passed.foldl (fun files path =>
      if (files.at? (.inside path)).isSome then files else files.set path .directory) files
    files.set path entry)
    ⟨[], [], .inside [], [(0, .pipe), (1, .pipe), (2, .pipe)]⟩

end Files

end BuildDispatch.Host
