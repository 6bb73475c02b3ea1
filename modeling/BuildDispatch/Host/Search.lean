import BuildDispatch.Host.Escapes
import BuildDispatch.Host.Files

/-!
Finding the program that a process names, as the system does it: at a path, or by a name along a
search path.
-/

namespace BuildDispatch.Host

/-- A program of the system, the name it is started under, and the words it is given in front of
all others. -/
structure Program where
  name : Bytes
  called : Bytes
  front : List Bytes

/-- The shell that runs scripts which name no program. -/
def standardShell : Bytes := .ofText "/bin/sh"

/-- The program that the first line of a script names, and the word behind it. -/
def interpreter? (content : Bytes) : Option (Bytes × List Bytes) :=
  let mark := Bytes.ofText "#!"
  if mark.isPrefixOf content then
    let isBlank (b : UInt8) : Bool := b = 0x20 || b = 0x09
    let row := ((content.drop 2).takeWhile (· != 0x0A)).dropWhile isBlank
    let name := row.takeWhile (!isBlank ·)
    let rest := (row.drop name.length).dropWhile isBlank
    let word := (rest.reverse.dropWhile isBlank).reverse
    if name.isEmpty then none else some (name, if word.isEmpty then [] else [word])
  else none

/-- The program that runs a script at a path; a shell does if the script names none. -/
def programOfScript (files : Files) (p content : Bytes) : Except OsError Program := do
  match interpreter? content with
  | none => .ok ⟨.ofText "sh", standardShell, [p]⟩
  | some (interpreter, words) =>
    match ← files.lookup interpreter with
    | .program name => .ok ⟨name, interpreter, words ++ [p]⟩
    | _ => .error .permissionDenied

/-- Where programs are sought when the environment has no search path. -/
def standardPath : Bytes := .ofText "/bin:/usr/bin"

/-- The program at a path, for a word that names it: one of the system, or that of a script that may
be run. -/
def programAt (files : Files) (word p : Bytes) : Except OsError Program := do
  match ← files.lookup p with
  | .program name => .ok ⟨name, word, []⟩
  | .directory => .error .permissionDenied
  | .file content =>
    if files.isRunnable p then programOfScript files p content else .error .permissionDenied

/-- The program of a name in a directory of a search path.  An empty name of a directory is the
working directory, and so is one that is longer than any path. -/
def programIn (files : Files) (name directory : Bytes) : Except OsError Program :=
  if directory.isEmpty || maxPathLength < directory.length then programAt files name name
  else programAt files name (directory ++ slash :: name)

/-- The program of a name along a search path.  A directory without the program is passed over, and
so is the last one if it is longer than any path; any other trouble ends the search.  If nothing is
found, a file that could not be run counts for more than one that is missing. -/
def programAlong (files : Files) (name : Bytes) : (denied : Bool) → (last : OsError) → List Bytes →
    Except OsError Program
  | denied, last, [] => .error (if denied then .permissionDenied else last)
  | denied, last, directory :: r =>
    if r.isEmpty && maxPathLength < directory.length then
      .error (if denied then .permissionDenied else last)
    else match programIn files name directory with
    | .ok program => .ok program
    | .error .permissionDenied => programAlong files name true last r
    | .error .notFound => programAlong files name denied .notFound r
    | .error .notADirectory => programAlong files name denied .notADirectory r
    | .error e => .error e

/-- The program that a word names: a path if it has a slash in it, and otherwise a name to be sought
along the search path, if there is one. -/
def findProgram (files : Files) (searchPath : Option Bytes) (word : Bytes) :
    Except OsError Program :=
  if word.isEmpty then .error .notFound
  else if word.contains slash then programAt files word word
  else if maxNameLength < word.length then .error .nameTooLong
  else programAlong files word false .notFound (splitOn (ascii ':') (searchPath.getD standardPath))

end BuildDispatch.Host
