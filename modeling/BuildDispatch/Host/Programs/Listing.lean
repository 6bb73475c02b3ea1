import BuildDispatch.Host.Programs.Basic

/-!
A program that lists the names in directories.
-/

namespace BuildDispatch.Host.Programs

/-- How names are listed. -/
structure Listing where
  /-- Whether hidden names are listed, too. -/
  hidden : Bool
  /-- Whether a directory and the one around it are listed by their short names. -/
  own : Bool
  isReversed : Bool
  /-- Whether directories are marked, and whether files that may be run are. -/
  marksDirectories : Bool
  marksRunnable : Bool
  /-- Whether the directories in directories are listed, too. -/
  isDeep : Bool

namespace Listing

/-- Names in their order. -/
def ordered (l : Listing) (names : List Bytes) : List Bytes :=
  let sorted := names.mergeSort fun a b => decide (a ≤ b)
  if l.isReversed then sorted.reverse else sorted

/-- A name at a place, with its mark, on a line. -/
def row (l : Listing) (files : Files) (name path : Bytes) : Bytes :=
  let mark := match files.lookup path with
    | .ok .directory => if l.marksDirectories then "/" else ""
    | .ok (.program _) => if l.marksRunnable then "*" else ""
    | .ok (.file _) => if l.marksRunnable && files.isRunnable path then "*" else ""
    | .error _ => ""
  name ++ line mark

/-- The path of a name in a directory. -/
def inner (directory name : Bytes) : Bytes :=
  if directory.getLast? = some slash then directory ++ name else directory ++ slash :: name

/-- The names in a directory that are listed, in order. -/
def names (l : Listing) (files : Files) (path : Bytes) : List Bytes :=
  let isShown (name : Bytes) : Bool := name.head? != some (ascii '.') || l.hidden
  let own : List Bytes := if l.own then [.ofText ".", .ofText ".."] else []
  let inside := ((files.resolve path).toOption.map files.names).getD []
  l.ordered (own ++ inside.filter isShown)

/-- The content of a directory, and of those in it if they are wanted, each with the path over
it. -/
def blocks (l : Listing) (files : Files) : (fuel : Nat) → (titled : Bool) → (path : Bytes) →
    List Bytes
  | 0, _, _ => []
  | fuel + 1, titled, path =>
    let names := l.names files path
    let rows := names.flatMap fun name => l.row files name (inner path name)
    let isOwn (name : Bytes) : Bool := [Bytes.ofText ".", Bytes.ofText ".."].contains name
    let directories := if !l.isDeep then [] else names.filter fun name =>
      !isOwn name && files.lookup (inner path name) matches .ok .directory
    ((if titled then path ++ line ":" else []) ++ rows) ::
      directories.flatMap fun name => l.blocks files fuel true (inner path name)

end Listing

/-- Lists the names in directories, and files as they are named. -/
def list : Given → Effect :=
  withOptions ⟨"1aAdFprRUC", "", "", [("all", 'a'), ("almost-all", 'A'), ("directory", 'd'),
    ("classify", 'F'), ("reverse", 'r'), ("recursive", 'R')]⟩ 2 fun g o words =>
  let l : Listing := {
    hidden := o.has 'a' || o.has 'A'
    own := o.has 'a'
    isReversed := o.has 'r'
    marksDirectories := o.has 'F' || o.has 'p'
    marksRunnable := o.has 'F'
    isDeep := o.has 'R' }
  let here := Bytes.ofText "."
  let named := if words.isEmpty then [here] else words
  let isDirectory (word : Bytes) : Bool :=
    !o.has 'd' && g.files.lookup word matches .ok .directory
  let checked := g.forEach 2 named fun files word =>
    match files.lookup word with
    | .ok _ => .ok ([], files)
    | .error e => .error (objection g.called "cannot access " (inShellQuotes word) e.reason)
  let found := l.ordered (named.filter fun word => (g.files.lookup word).isOk)
  let (directories, others) := found.partition isDirectory
  let rows := others.flatMap fun word => l.row g.files word word
  let titled := 1 < named.length || l.isDeep
  let blocks := directories.flatMap (l.blocks g.files 1000 titled)
  let blocks := if rows.isEmpty then blocks else rows :: blocks
  { checked with stdout := (Bytes.ofText "\n").intercalate blocks }

end BuildDispatch.Host.Programs
