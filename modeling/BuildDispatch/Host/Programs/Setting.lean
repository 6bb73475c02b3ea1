import BuildDispatch.Host.Programs.Basic
import BuildDispatch.Host.Search

/-!
Changed surroundings for a program: what the words of `env` ask for, on the variables it is given.
-/

namespace BuildDispatch.Host.Programs

/-- What a program is to run in, and the words of its command, which may be none. -/
structure Setting where
  block : Block
  /-- The directory to change to. -/
  directory : Option Bytes
  /-- Whether the variables are listed with a NUL byte behind each. -/
  endsWithNul : Bool
  command : List Bytes

/-- The status of a change that could not be made. -/
def settingFailure : Nat := 125

/-- The options of `env`. -/
def settingNames : OptionNames where
  plain := "i0"
  valued := "uC"
  attached := ""
  long := [("ignore-environment", 'i'), ("null", '0'), ("unset", 'u'), ("chdir", 'C')]

/-- The block without the variables of these names. -/
def withoutNames (called : Bytes) (block : Block) (names : List Bytes) : Except Bytes Block :=
  match names.find? fun name => name.isEmpty || name.contains (ascii '=') with
  | some name => .error (objection called "cannot unset " (inQuotes name) "Invalid argument")
  | none => .ok (block.filter fun e => !names.contains e.1)

/-- The setting that words ask for, from the variables that are there; or a complaint. -/
def settingOf (called : Bytes) (args : List Bytes) (block : Block) : Except Bytes Setting := do
  let misused (complaint : Bytes) : Bytes := misuse called complaint
  let (o, words) ← (settingNames.readFront (args.length + 1) args).mapError misused
  let isBare := words.head? = some (Bytes.ofText "-")
  let words := if isBare then words.tail else words
  let block ← if isBare || o.has 'i' then pure [] else withoutNames called block (o.values 'u')
  let isAssignment (w : Bytes) : Bool := w.contains (ascii '=')
  let set (block : Block) (w : Bytes) : Block :=
    let name := w.takeWhile (· != ascii '=')
    block.put name (w.drop (name.length + 1))
  let command := words.dropWhile isAssignment
  let directory := (o.values 'C').getLast?
  if o.has '0' && !command.isEmpty then
    throw (misused (.ofText "cannot specify --null (-0) with command"))
  if directory.isSome && command.isEmpty then
    throw (misused (.ofText "must specify command with --chdir (-C)"))
  return ⟨(words.takeWhile isAssignment).foldl set block, directory, o.has '0', command⟩

namespace Setting

/-- The search path among the variables. -/
def searchPath (s : Setting) : Option Bytes := s.block.lookup (.ofText "PATH")

/-- The variables, each on a line. -/
def listing (s : Setting) : Bytes :=
  let ending : Bytes := if s.endsWithNul then [0] else .ofText "\n"
  s.block.flatMap fun (name, value) => name ++ Bytes.ofText "=" ++ value ++ ending

end Setting

end BuildDispatch.Host.Programs
