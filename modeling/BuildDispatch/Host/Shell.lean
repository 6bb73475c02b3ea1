import BuildDispatch.Host.Condition
import BuildDispatch.Host.Fields
import BuildDispatch.Host.Files
import BuildDispatch.Host.Script
import BuildDispatch.Host.Shell.Options
import BuildDispatch.Host.Variables
import BuildDispatch.OsError
import BuildDispatch.WaitStatus

/-!
The state of a shell, and what commands do with it: variables, descriptors, complaints.
-/

namespace BuildDispatch.Host

/-- Where a descriptor leads. -/
inductive Descriptor where
  /-- To an output of the shell, by its number. -/
  | output (channel : Nat)
  /-- To an input of the shell, by its number. -/
  | input (channel : Nat)
  /-- To a file, from a position on that the shell knows by its number, or always behind its end. -/
  | file (place : Place) (position : Option Nat)
  /-- To a file that is read and written from one position on: an input of the shell. -/
  | both (channel : Nat) (place : Place)

/-- An input of a shell. -/
structure Input where
  /-- What is left to be read. -/
  rest : Bytes
  /-- The whole content of the file that it comes from, if it comes from one. -/
  file : Option Bytes

/-- What the end of a function takes back. -/
structure Hidden where
  /-- What variables were before, the last one first. -/
  values : List (Bytes × Option Variable)
  /-- The options that were set before, if the function wants them back. -/
  options : Option (List ShellOption)

/-- The state of a shell. -/
structure Shell where
  /-- The name of the script. -/
  name : Bytes
  args : List Bytes
  /-- Where the next option is: the number of the word, and how much of that word is done. -/
  option : Nat × Nat
  vars : Variables
  functions : List (Bytes × Script)
  /-- Words that stand for texts at the beginning of a command. -/
  aliases : List (Bytes × Bytes)
  /-- The names of programs that were found along the search path. -/
  tracked : List Bytes
  /-- What the ends of the functions that are running take back, the innermost one first. -/
  hidden : List Hidden
  /-- The options that are set. -/
  options : List ShellOption
  /-- Actions for signals, and for the end of the shell under the number zero. -/
  traps : List (Nat × Bytes)
  /-- Signals whose actions are to be run. -/
  pending : List Nat
  /-- The status of the last command. -/
  status : Nat
  /-- The status of the last command whose output went into the present one. -/
  inner : Nat
  /-- How many loops are running. -/
  loops : Nat
  /-- How many functions are running. -/
  depth : Nat
  /-- The number of the process. -/
  process : Nat
  /-- Whether this is a copy of the shell with that number, and a process of its own. -/
  isCopy : Bool
  /-- The numbers of the processes outside. -/
  outside : List Nat
  /-- Signals on their way to processes outside, each with the number of the process. -/
  sent : List (Nat × Nat)
  /-- Processes in the background with their statuses, the last one first. -/
  jobs : List (Nat × Nat)
  /-- The rights that new files do not get. -/
  mask : Nat
  /-- The line of the present command. -/
  line : Nat
  /-- The lines to which the script and the texts within it have been read, the innermost first. -/
  reached : List Nat
  /-- The command of the shell that is running, or the file whose commands are, if any. -/
  command : Option Bytes
  descriptors : List (Nat × Descriptor)
  /-- Whether something could not be written to the standard output. -/
  hasLost : Bool
  outputs : List Bytes
  inputs : List Input
  /-- The positions in files from which the next bytes are written. -/
  positions : List Nat
  files : Files

/-- Why a script does not go on to the next command. -/
inductive Stop where
  | exited (code : Nat)
  /-- A signal ends the process that runs this. -/
  | killed (signal : Nat)
  | returned (status : Nat)
  /-- Leaves so many loops. -/
  | broke (levels : Nat)
  /-- Goes on with the next round of the loop outside so many others. -/
  | continued (levels : Nat)
  /-- An error that ends all but an interactive shell. -/
  | failed
  deriving Repr, DecidableEq

/-- Something that a shell does. -/
abbrev Run := ExceptT Stop (StateM Shell)

namespace Shell

/-- The number by which the first shell knows its own process. -/
def firstProcess : Nat := 2

/-- The number of the process that started the first shell. -/
def outerProcess : Nat := 1

/-- The text of a number. -/
def number (n : Nat) : Bytes := .ofText (toString n)

/-- A shell at the beginning of a script.  It takes over the variables with a proper name that it is
given, save those that it sets for itself. -/
def start (name : Bytes) (args : List Bytes) (env : Block) (parent : Nat) (stdin : Bytes)
    (files : Files) : Shell where
  name := name
  args := args
  option := (1, 0)
  vars :=
    let named := env.filter fun e => Script.isName e.1
    let given := named.foldl (fun vars e => (vars.insert e.1 e.2).expose e.1) Variables.initial
    let own : Block := [
      (.ofText "IFS", .ofText " \t\n"), (.ofText "OPTIND", .ofText "1"),
      (.ofText "PPID", number parent), (.ofText "PWD", files.here.absolute)]
    (own.foldl (fun vars e => vars.insert e.1 e.2) given).expose (.ofText "PWD")
  functions := []
  tracked := []
  hidden := []
  options := []
  aliases := []
  traps := []
  pending := []
  status := 0
  inner := 0
  loops := 0
  depth := 0
  process := firstProcess
  isCopy := false
  outside := []
  sent := []
  jobs := []
  mask := 0o022
  line := 0
  reached := []
  command := none
  descriptors := [(0, .input 0), (1, .output 0), (2, .output 1)]
  hasLost := false
  outputs := [[], []]
  inputs := [⟨stdin, some stdin⟩]
  positions := []
  files := files

/-- Whether an option is set. -/
def has (sh : Shell) (o : ShellOption) : Bool := sh.options.contains o

/-! ### Output and input -/

/-- Writes to a place that a descriptor leads to. -/
def write (sh : Shell) (b : Bytes) : Descriptor → Shell
  | .output channel => { sh with outputs := sh.outputs.modify channel (· ++ b) }
  | .input _ => sh
  | .both channel place =>
    let i := sh.inputs.getD channel ⟨[], none⟩
    let position := (i.file.getD []).length - i.rest.length
    let files := sh.files.writeInto (some position) b place
    match files.at? place with
    | some (.file content) =>
      let i : Input := ⟨content.drop (position + b.length), some content⟩
      { sh with files, inputs := sh.inputs.set channel i }
    | _ => sh
  | .file place none => { sh with files := sh.files.writeInto none b place }
  | .file place (some n) => { sh with
      files := sh.files.writeInto sh.positions[n]? b place
      positions := sh.positions.modify n (· + b.length) }

/-- Why nothing can be written to a descriptor, if it is so. -/
def refusal? (sh : Shell) (descriptor : Nat) : Option OsError :=
  match sh.descriptors.lookup descriptor with
  | none | some (.input _) => some .badDescriptor
  | some (.file (.system path) _) => if path = fullDevice then some .noSpace else none
  | some _ => none

/-- Writes to a descriptor; what cannot be written is lost. -/
def emit (descriptor : Nat) (b : Bytes) : Run Unit := modify fun sh =>
  if b.isEmpty then sh
  else
    match sh.refusal? descriptor, sh.descriptors.lookup descriptor with
    | none, some d => sh.write b d
    | _, _ => { sh with hasLost := sh.hasLost || descriptor = 1 }

/-- Writes to the standard output for a command of the shell. -/
def print (b : Bytes) : Run Nat := do
  emit 1 b
  return 0

/-- A complaint of the shell, or of a command of its own, about the line of the present command. -/
def complain (b : Bytes) : Run Unit := do
  let sh ← get
  let command : Bytes := match sh.command with
    | some c => c ++ .ofText ": "
    | none => []
  emit 2 (sh.name ++ .ofText (": " ++ toString sh.line ++ ": ") ++ command ++ b ++ .ofText "\n")

/-- A complaint that ends the script. -/
def fail {α : Type} (b : Bytes) : Run α := do
  complain b
  throw .failed

/-- The natural number that an argument must spell. -/
def naturalArgument (w : Bytes) : Run Nat :=
  match Condition.decimal? w with
  | some n =>
    if 0 ≤ n && n ≤ 2147483647 then return n.toNat else fail (.ofText "Illegal number: " ++ w)
  | none => fail (.ofText "Illegal number: " ++ w)

/-- The input that a descriptor leads to. -/
def input (sh : Shell) (descriptor : Nat) : Input :=
  match sh.descriptors.lookup descriptor with
  | some (.input channel) | some (.both channel _) => sh.inputs.getD channel ⟨[], none⟩
  | _ => ⟨[], none⟩

/-- What can be read from a descriptor. -/
def available (sh : Shell) (descriptor : Nat) : Bytes := (sh.input descriptor).rest

/-- What a descriptor leads to, as a process sees it. -/
def streamOf (sh : Shell) : Descriptor → Stream
  | .input channel | .both channel _ => ((sh.inputs[channel]?).bind Input.file).elim .pipe .file
  | .output _ => .pipe
  | .file place _ =>
    match sh.files.at? place with
    | some (.file content) => .file content
    | _ => .pipe

/-- The files as the commands of the shell see them, with the descriptors of the shell. -/
def view (sh : Shell) : Files :=
  { sh.files with streams := sh.descriptors.map fun (n, d) => (n, sh.streamOf d) }

/-- Leaves this much to be read from a descriptor. -/
def leave (descriptor : Nat) (rest : Bytes) : Run Unit := modify fun sh =>
  match sh.descriptors.lookup descriptor with
  | some (.input channel) | some (.both channel _) =>
    { sh with inputs := sh.inputs.modify channel ({ · with rest }) }
  | _ => sh

/-- The content of a file of commands.  What comes out of a pipe is used up. -/
def takeScript (path : Bytes) : Run (Except OsError Bytes) := do
  let sh ← get
  match descriptorOf? path, sh.view.lookup path with
  | _, .error e => return .error e
  | some n, .ok (.file b) =>
    if sh.view.stream? path = some .pipe then
      leave n []
      return .ok (sh.available n)
    else return .ok b
  | none, .ok (.file b) => return .ok b
  | _, .ok _ => return .ok []

/-- A descriptor leads elsewhere from now on. -/
def attach (descriptor : Nat) (d : Descriptor) : Run Unit := modify fun sh =>
  { sh with descriptors := (descriptor, d) :: sh.descriptors.filter (·.1 != descriptor) }

/-- A descriptor leads nowhere from now on. -/
def detach (descriptor : Nat) : Run Unit := modify fun sh =>
  { sh with descriptors := sh.descriptors.filter (·.1 != descriptor) }

/-- A descriptor reads this from now on. -/
def attachInput (descriptor : Nat) (i : Input) : Run Unit := do
  let channel := (← get).inputs.length
  modify fun sh => { sh with inputs := sh.inputs ++ [i] }
  attach descriptor (.input channel)

/-- Sets the status of the last command. -/
def setStatus (status : Nat) : Run Unit := modify fun sh => { sh with status }

/-- Does something with other descriptors, and takes the old ones back, however it ends. -/
def keepDescriptors {α : Type} (act : Run α) : Run α := do
  let before := (← get).descriptors
  try
    let a ← act
    modify fun sh => { sh with descriptors := before }
    return a
  catch stop =>
    modify fun sh => { sh with descriptors := before }
    throw stop

/-- Does something and makes these descriptors lead where they did before, however it ends. -/
def keepThese {α : Type} (kept : List Nat) (act : Run α) : Run α := do
  let before := (← get).descriptors.filter fun d => kept.contains d.1
  let restore : Run Unit := modify fun sh =>
    { sh with descriptors := before ++ sh.descriptors.filter fun d => !kept.contains d.1 }
  try
    let a ← act
    restore
    return a
  catch stop =>
    restore
    throw stop

/-- Does something in the name of a command of the shell. -/
def inNameOf {α : Type} (command : Bytes) (act : Run α) : Run α := do
  let before := (← get).command
  modify fun sh => { sh with command := some command }
  try
    let a ← act
    modify fun sh => { sh with command := before }
    return a
  catch stop =>
    modify fun sh => { sh with command := before }
    throw stop

/-- The signals that do not end a process. -/
def harmlessSignals : List Nat := [0, 17, 18, 19, 20, 21, 22, 23, 28]

/-- Takes a signal, for which an action is run if there is one. -/
def takeSignal (n : Nat) : Run Unit := do
  match (← get).traps.lookup n with
  | some action =>
    if !action.isEmpty && n != 9 then modify fun sh => { sh with pending := sh.pending ++ [n] }
    if n = 9 then throw (.killed n) else return ()
  | none => if harmlessSignals.contains n then return () else throw (.killed n)

/-- The signal that comes when a process within has ended. -/
def childSignal : Nat := 17

/-- Takes the signal for the end of a process within. -/
def takeEnd : Run Unit := do
  if !(← get).pending.contains childSignal then takeSignal childSignal

/-- Takes the signals that have come from within. -/
def takeSent : Run Unit := do
  let sh ← get
  if !sh.isCopy then
    set { sh with sent := sh.sent.filter (·.1 != sh.process) }
    for (process, n) in sh.sent do
      if process = sh.process then takeSignal n

/-- Does something on a copy of the shell: what it wrote and read, and the files, stay. -/
def onCopy {α : Type} (act : Run α) : Run (Except Stop α × Shell) := do
  let sh ← get
  let (result, after) := (act.run).run sh
  set { sh with
    outputs := after.outputs
    inputs := after.inputs
    positions := after.positions
    files := { after.files with here := sh.files.here }
    sent := after.sent }
  takeSent
  return (result, after)

/-- Does something and takes what it writes to the standard output. -/
def capture {α : Type} (act : Run α) : Run (α × Bytes) := keepDescriptors do
  let channel := (← get).outputs.length
  modify fun sh => { sh with outputs := sh.outputs ++ [[]] }
  attach 1 (.output channel)
  let a ← act
  return (a, (← get).outputs.getD channel [])

/-! ### Redirections -/

/-- A redirection that knows its file or its source. -/
inductive Aim where
  | write (descriptor : Nat) (path : Bytes) (behind forced : Bool)
  | read (descriptor : Nat) (path : Bytes)
  | open (descriptor : Nat) (path : Bytes)
  | copy (descriptor : Nat) (source : Bytes)
  | document (descriptor : Nat) (text : Word)

/-- The descriptor that a redirection is about. -/
def Aim.descriptor : Aim → Nat
  | .write n .. | .read n _ | .open n _ | .copy n _ | .document n _ => n

/-- Why a file could not be opened, in the words of the shell. -/
def openReason (missing : String) : OsError → String
  | .notFound | .notADirectory => missing
  | e => e.reason

/-- Opens a file to write to; a path that stands for a descriptor leads where that one does. -/
def attachFile (descriptor : Nat) (path : Bytes) (behind forced : Bool) : Run Unit := do
  let sh ← get
  let refused (reason : String) : Run Unit :=
    fail (.ofText "cannot create " ++ path ++ .ofText (": " ++ reason))
  let attachPlace (place : Place) : Run Unit := do
    if behind then attach descriptor (.file place none)
    else
      modify fun sh => { sh with positions := sh.positions ++ [0] }
      attach descriptor (.file place (some sh.positions.length))
  match (descriptorOf? path).map (fun n => sh.descriptors.lookup n), sh.files.placeToWrite path with
  | some (some d), _ => attach descriptor d
  | some none, _ => refused "Directory nonexistent"
  | none, .error e => refused (openReason "Directory nonexistent" e)
  | none, .ok place =>
    match sh.files.at? place, place with
    | some _, .inside _ =>
      if behind then attachPlace place
      else if sh.has .keepFiles && !forced then refused "File exists"
      else
        set { sh with files := sh.files.write [] place }
        attachPlace place
    | _, _ =>
      set { sh with files := sh.files.append [] place }
      attachPlace place

/-- Opens a file to read from; a path that stands for a descriptor leads where that one does, but to
the beginning of its file if it reads one. -/
def attachContent (descriptor : Nat) (path : Bytes) : Run Unit := do
  let sh ← get
  let files := sh.files
  let refused (reason : String) : Run Unit :=
    fail (.ofText "cannot open " ++ path ++ .ofText (": " ++ reason))
  match (descriptorOf? path).map (fun n => sh.descriptors.lookup n), files.lookup path with
  | some (some (.input channel)), _ =>
    match (sh.inputs.getD channel ⟨[], none⟩).file with
    | some content => attachInput descriptor ⟨content, some content⟩
    | none => attach descriptor (.input channel)
  | some (some d), _ => attach descriptor d
  | some none, _ => refused "No such file"
  | none, .ok (.file content) =>
    attachInput descriptor ⟨content, if files.isOwn path then some content else none⟩
  | none, .ok _ => attachInput descriptor ⟨[], none⟩
  | none, .error e => refused (openReason "No such file" e)

/-- Makes a descriptor lead where a redirection says, given what a word stands for. -/
def redirect (textOf : Word → Run Bytes) : Aim → Run Unit
  | .write descriptor path behind forced => attachFile descriptor path behind forced
  | .read descriptor path => attachContent descriptor path
  | .open descriptor path => do
    let files := (← get).files
    match files.lookup path, files.placeToWrite path with
    | .ok (.file content), .ok place =>
      attachContent descriptor path
      match (← get).descriptors.lookup descriptor with
      | some (.input channel) =>
        modify fun sh => { sh with inputs := sh.inputs.set channel ⟨content, some content⟩ }
        attach descriptor (.both channel place)
      | _ => return ()
    | .ok (.file _), _ => attachContent descriptor path
    | _, _ => attachFile descriptor path false true
  | .copy descriptor source =>
    match source with
    | [b] =>
      if b = ascii '-' then detach descriptor
      else do
        match (← get).descriptors.lookup (b.toNat - 48) with
        | some d => attach descriptor d
        | none => fail (source ++ .ofText ": Bad file descriptor")
    | _ => detach descriptor
  | .document descriptor text => do attachInput descriptor ⟨← textOf text, none⟩

/-! ### Variables -/

/-- The name of the variable that says where the next option is. -/
def optionVariable : Bytes := .ofText "OPTIND"

/-- Sets a variable that may change. -/
def setVariable (name value : Bytes) : Run Unit := do
  let sh ← get
  if sh.vars.isFixed name then fail (name ++ .ofText ": is read only")
  else
    let option ← if name = optionVariable then pure (max 1 (← naturalArgument value), 0)
      else pure sh.option
    let vars := sh.vars.insert name value
    set { sh with
      vars := if sh.has .exportAll then vars.expose name else vars
      option
      tracked := if name = Bytes.ofText "PATH" then [] else sh.tracked }

/-- Takes a variable away. -/
def unsetVariable (name : Bytes) : Run Unit := do
  let sh ← get
  if sh.vars.isFixed name then fail (name ++ .ofText ": is read only")
  else
    if name = optionVariable then
      let _ ← naturalArgument []
    let vars := sh.vars.erase name
    set { sh with vars := if sh.has .exportAll then vars.expose name else vars }

/-- Keeps in mind that a program was found along the search path. -/
def track (name : Bytes) : Run Unit := modify fun sh =>
  if name.contains slash || sh.tracked.contains name then sh
  else { sh with tracked := sh.tracked ++ [name] }

/-- Lets programs see a variable. -/
def exportVariable (name : Bytes) : Run Unit := modify fun sh =>
  { sh with vars := sh.vars.expose name }

/-- Makes variables what they were, the last one first. -/
def restoreVariables (sh : Shell) (before : List (Bytes × Option Variable)) : Shell :=
  let marked (vars : Variables) (b : Bytes × Option Variable) : Variables :=
    if sh.has .exportAll && b.2.isNone then vars.expose b.1 else vars
  { sh with vars := before.foldl (fun vars b => marked (vars.restore b) b) sh.vars }

/-- What the variable of a name is. -/
def variableNow (sh : Shell) (name : Bytes) : Bytes × Option Variable := (name, sh.vars.find? name)

/-- Does something with variables set for it alone, which programs see. -/
def withVariables {α : Type} (assignments : List (Bytes × Bytes)) (act : Run α) : Run α := do
  let sh ← get
  let before := assignments.map fun a => sh.variableNow a.1
  for (name, value) in assignments do
    setVariable name value
    exportVariable name
  let tracked := sh.tracked
  let movesSearch := assignments.any (·.1 = Bytes.ofText "PATH")
  let restore : Run Unit := modify fun sh =>
    let sh := sh.restoreVariables before.reverse
    { sh with tracked := if movesSearch then tracked else sh.tracked }
  try
    let a ← act
    restore
    return a
  catch stop =>
    restore
    throw stop

/-- The bytes that part the fields of an expansion. -/
def separators (sh : Shell) : Bytes := (sh.vars.get? (.ofText "IFS")).getD (.ofText " \t\n")

/-- All arguments in one, with the first separator between them. -/
def joinedArguments (sh : Shell) : Bytes :=
  ((sh.separators.head?.map ([·])).getD []).intercalate sh.args

/-- The value of a parameter, if it has one. -/
def value? (sh : Shell) : Param → Option Bytes
  | .variable name => sh.vars.get? name
  | .position 0 => some sh.name
  | .position n => sh.args[n - 1]?
  | .each | .joined => some sh.joinedArguments
  | .count => some (number sh.args.length)
  | .status => some (number sh.status)
  | .self => some (number sh.process)
  | .background => sh.jobs.head?.map fun j => number j.1
  | .options => some (ShellOption.letters sh.options)

/-! ### Names of files -/

/-- The paths that a pattern of components stands for, from a path on.  Names that begin with a dot
are meant only where the pattern begins with one. -/
def pathsFrom (files : Files) : (front : Bytes) → List Pattern → List Bytes
  | front, [] => [front]
  | front, [p] => (step files front p).filter fun path => (files.lookup path).isOk
  | front, p :: q :: r =>
    (step files front p).flatMap fun path => pathsFrom files (path ++ [slash]) (q :: r)
where
  /-- The paths that one component leads to. -/
  step (files : Files) (front : Bytes) (p : Pattern) : List Bytes :=
    if !p.isProper then [front ++ p.plain]
    else
      match files.resolve (if front.isEmpty then .ofText "." else front) with
      | .ok place =>
        let isHidden (name : Bytes) : Bool := name.head? = some (ascii '.')
        let wantsHidden := isHidden p.plain
        let own : List Bytes := [.ofText ".", .ofText ".."] ++ files.names place
        (own.filter fun name => wantsHidden == isHidden name && p.accepts name).map (front ++ ·)
      | .error _ => []

/-- The components of a pattern of a path. -/
def patternComponents : Pattern → List Pattern
  | [] => [[]]
  | x :: r =>
    match patternComponents r with
    | [] => [[x]]
    | c :: cs => if x.1 = slash then [] :: c :: cs else (x :: c) :: cs

/-- The names of files that a word stands for, in the order of their bytes, or the word itself if
there are none. -/
def names (sh : Shell) (p : Pattern) : List Bytes :=
  if sh.has .noNames || !p.isProper then [p.plain]
  else
    match pathsFrom sh.files [] (patternComponents p) with
    | [] => [p.plain]
    | found => found.mergeSort fun a b => decide (a ≤ b)

end Shell

end BuildDispatch.Host
