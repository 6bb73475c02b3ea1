import BuildDispatch.Host.Pattern
import BuildDispatch.Host.Programs.Basic
import BuildDispatch.Host.Programs.Listing

/-!
A program that walks through directories and prints the paths that tests let pass.
-/

namespace BuildDispatch.Host.Programs

/-- A test of a path. -/
inductive PathTest where
  | name (pattern : Bytes)
  | path (pattern : Bytes)
  | directory
  | file
  | empty

/-- What is asked of a walk. -/
structure Walk where
  least : Nat
  most : Option Nat
  /-- Tests that must hold, or must not hold if they are marked. -/
  tests : List (Bool × PathTest)

/-- The pattern of a word; a backslash takes the meaning of the next byte away.  A circumflex means
the same as an exclamation mark in front of a set. -/
def patternOf : Bytes → Pattern
  | [] => []
  | 0x5C :: b :: r => (b, true) :: patternOf r
  | 0x5B :: 0x5E :: r => (0x5B, false) :: (ascii '!', false) :: patternOf r
  | b :: r => (b, false) :: patternOf r

/-- Whether a path passes a test. -/
def PathTest.passes (files : Files) (path : Bytes) : PathTest → Bool
  | .name pattern => (patternOf pattern).accepts (((components path).getLast?).getD path)
  | .path pattern => (patternOf pattern).accepts path
  | .directory => (files.lookup path matches .ok .directory)
  | .file =>
    (match files.lookup path with
      | .ok .directory | .error _ => false
      | .ok _ => true)
  | .empty =>
    (match files.lookup path with
      | .ok (.file b) => b.isEmpty
      | .ok .directory => ((files.resolve path).toOption.map files.names) = some []
      | _ => false)

/-- The paths at and below a path that pass all tests. -/
def Walk.paths (w : Walk) (files : Files) : (fuel depth : Nat) → Bytes → List Bytes
  | 0, _, _ => []
  | fuel + 1, depth, path =>
    let isWanted := w.least ≤ depth &&
      w.tests.all fun (isInverse, test) => test.passes files path != isInverse
    let isWithin := (w.most.map fun n => decide (depth < n)).getD true
    let inside := if isWithin && PathTest.directory.passes files path then
        ((files.resolve path).toOption.map files.names).getD []
      else []
    (if isWanted then [path] else []) ++
      inside.flatMap fun name => w.paths files fuel (depth + 1) (Listing.inner path name)

/-- The walk that words ask for, or what is wrong with them. -/
def walkOf : (fuel : Nat) → (isInverse : Bool) → Walk → List Bytes → Except Bytes Walk
  | 0, _, w, _ => .ok w
  | _, _, w, [] => .ok w
  | fuel + 1, isInverse, w, word :: rest =>
    let is (s : String) : Bool := word = Bytes.ofText s
    let test (t : PathTest) (rest : List Bytes) : Except Bytes Walk :=
      walkOf fuel false { w with tests := w.tests ++ [(isInverse, t)] } rest
    let missing : Except Bytes Walk :=
      .error (.ofText "missing argument to \x60" ++ word ++ .ofText "'")
    if is "-print" || is "-a" || is "-and" then walkOf fuel isInverse w rest
    else if is "!" || is "-not" then walkOf fuel (!isInverse) w rest
    else if is "-empty" then test .empty rest
    else
      match rest with
      | [] =>
        if ["-name", "-path", "-type", "-maxdepth", "-mindepth"].any is then missing
        else unknown word
      | value :: rest =>
        if is "-name" then test (.name value) rest
        else if is "-path" then test (.path value) rest
        else if is "-type" then
          if value = Bytes.ofText "d" then test .directory rest
          else if value = Bytes.ofText "f" then test .file rest
          else if value.isEmpty then
            .error (.ofText "Arguments to -type should contain at least one letter")
          else .error (.ofText "Unknown argument to -type: " ++ value.take 1)
        else if is "-maxdepth" || is "-mindepth" then
          match natural? value with
          | none =>
            .error (.ofText "Expected a positive decimal integer argument to " ++ word
              ++ .ofText ", but got " ++ inQuotes value)
          | some n =>
            let bounded := if is "-maxdepth" then { w with most := n } else { w with least := n }
            walkOf fuel false bounded rest
        else unknown word
where
  /-- A word that is no test. -/
  unknown (word : Bytes) : Except Bytes Walk :=
    .error (.ofText "unknown predicate \x60" ++ word ++ .ofText "'")

/-- Walks through directories and prints paths. -/
def walk (g : Given) : Effect :=
  let isPath (w : Bytes) : Bool :=
    (w.head? != some (ascii '-') || w.length < 2) && w != Bytes.ofText "!"
  let named := g.args.takeWhile isPath
  let roots := if named.isEmpty then [Bytes.ofText "."] else named
  match walkOf (g.args.length + 1) false ⟨0, none, []⟩ (g.args.drop named.length) with
  | .error complaint => g.refused 1 complaint
  | .ok w => g.forEach 1 roots fun files root =>
    match files.lookup root with
    | .ok _ => .ok ((w.paths files 1000 0 root).flatMap (· ++ Bytes.ofText "\n"), files)
    | .error e => .error (objection g.called "" (inQuotes root) e.reason)

end BuildDispatch.Host.Programs
