import BuildDispatch.Host.Format
import BuildDispatch.Host.Programs
import BuildDispatch.Host.Script.Reader
import BuildDispatch.Host.Shell

/-!
Commands of the shell itself that run no others.  Each takes its arguments and gives a status.
-/

namespace BuildDispatch.Host.Shell

/-- A command of the shell. -/
abbrev Builtin := List Bytes → Run Nat

/-- Takes the letters of an option as long as they are among these. -/
def takeLetters (letters : String) (word : Bytes) : Run Bytes :=
  match word.find? fun b => !(Bytes.ofText letters).contains b with
  | some b => fail (.ofText "Illegal option -" ++ [b])
  | none => return word

/-- Takes the options in front of arguments, each of these letters. -/
def takeOptions (letters : String) : List Bytes → Run (Bytes × List Bytes)
  | [] => return ([], [])
  | word :: rest => do
    if word = .ofText "--" then return ([], rest)
    else if word.head? != some (ascii '-') || word.length < 2 then return ([], word :: rest)
    else
      let own ← takeLetters letters word.tail
      let (more, rest) ← takeOptions letters rest
      return (own ++ more, rest)

/-- A text as the shell reads it back: between single quotes, and single quotes between double
ones. -/
def quotedText (b : Bytes) : Bytes :=
  let isQuote (x : UInt8) : Bool := x = ascii '\''
  let runs := b.splitBy fun x y => isQuote x == isQuote y
  let plain (run : Bytes) : Bytes := .ofText "'" ++ run ++ .ofText "'"
  let shown (run : Bytes) : Bytes :=
    if run.all isQuote then .ofText "\"" ++ run ++ .ofText "\"" else plain run
  (if (b.head?.map isQuote).getD true then plain [] else []) ++ runs.flatMap shown

/-! ### Output and input -/

/-- Prints its arguments. -/
def echoWords : Builtin := fun args => do
  let isBare := args.head? = some (Bytes.ofText "-n")
  let words := if isBare then args.tail else args
  print (Programs.echoed ⟨!isBare, some shellEscapes⟩ words)

/-- Prints its arguments in a format. -/
def printFormat : Builtin := fun args => do
  let (_, args) ← takeOptions "" args
  match args with
  | [] => fail (.ofText "usage: printf format [arg ...]")
  | format :: words =>
    let (s, halt) := Format.print Format.ofShell format words
    for (w, flaw) in s.complaints do complain (w ++ .ofText (": " ++ wording flaw))
    match halt with
    | some halt =>
      complain (reason halt)
      let _ ← print s.out
      throw .failed
    | none =>
      let status ← print s.out
      return if s.complaints.isEmpty then status else 1
where
  /-- What the shell says about an early end. -/
  reason : Format.Halt → Bytes
    | .missingDirective => .ofText "missing format character"
    | .invalidDirective written => written ++ .ofText ": invalid directive"
    | .missingHexadecimal | .invalidLength .. => []
    | .tooLong => .ofText "xvsnprintf failed"
  /-- What the shell says against a word that is to be a number. -/
  wording : Format.Flaw → String
    | .notNumeric => "expected numeric value"
    | .leftover | .behindByte => "not completely converted"
    | .outOfRange => "Numerical result out of range"

/-- The first line of an input, whether it has an end, and what follows.  Unless the line is taken
raw, a backslash takes away the meaning of the next character. -/
def inputLine (isRaw : Bool) : Bytes → List (UInt8 × Bool) × Bool × Bytes
  | [] => ([], false, [])
  | b :: r =>
    if b = ascii '\n' then ([], true, r)
    else if b = ascii '\\' && !isRaw then
      match r with
      | [] => ([], false, [])
      | c :: r =>
        let (l, ended, rest) := inputLine isRaw r
        (if c = ascii '\n' then l else (c, true) :: l, ended, rest)
    else
      let (l, ended, rest) := inputLine isRaw r
      ((b, false) :: l, ended, rest)

/-- Shares a line out to so many variables; the last one takes all that is left, save a separator
behind a single field. -/
def shareLine (separators : Bytes) : (count : Nat) → List (UInt8 × Bool) → List Bytes
  | 0, _ => []
  | count + 1, l =>
    let isSeparator (x : UInt8 × Bool) : Bool := !x.2 && separators.contains x.1
    let isSpace (x : UInt8 × Bool) : Bool := isSeparator x && Fields.isSpace x.1
    let l := l.dropWhile isSpace
    let field := l.takeWhile fun x => !isSeparator x
    let rest := (l.drop field.length).dropWhile isSpace
    let goesOn := (rest.head?.map isSeparator).getD false
    let rest := if goesOn then rest.tail.dropWhile isSpace else rest
    if count = 0 && !rest.isEmpty then [((l.reverse.dropWhile isSpace).reverse).map (·.1)]
    else field.map (·.1) :: shareLine separators count rest

/-- Takes the options of a command that reads: whether lines are raw, and the names behind. -/
def readOptions : (fuel : Nat) → (isRaw : Bool) → List Bytes → Run (Bool × List Bytes)
  | 0, isRaw, args => return (isRaw, args)
  | _, isRaw, [] => return (isRaw, [])
  | fuel + 1, isRaw, word :: rest => do
    if word = .ofText "--" then return (isRaw, rest)
    else if word.head? != some (ascii '-') || word.length < 2 then return (isRaw, word :: rest)
    else
      let flags := word.tail.takeWhile (· != ascii 'p')
      let isRaw := isRaw || !(← takeLetters "r" flags).isEmpty
      match word.tail.drop flags.length with
      | [] => readOptions fuel isRaw rest
      | [_] =>
        if rest.isEmpty then fail (.ofText "No arg for -p option")
        else readOptions fuel isRaw rest.tail
      | _ :: _ :: _ => readOptions fuel isRaw rest

/-- Reads a line into variables. -/
def readLine : Builtin := fun args => do
  let (isRaw, words) ← readOptions args.length false args
  let names := words.map fun w => w.takeWhile (· != ascii '=')
  match names.find? fun n => !Script.isName n with
  | some n => fail (n ++ .ofText ": bad variable name")
  | none =>
    if names.isEmpty then fail (.ofText "arg count")
    else
      let sh ← get
      let (l, complete, rest) := inputLine isRaw (sh.available 0)
      leave 0 rest
      for (name, value) in names.zip (shareLine sh.separators names.length l) do
        setVariable name value
      return if complete then 0 else 1

/-! ### Variables and options -/

/-- The name that an argument assigns to or just names, and the value. -/
def nameAndValue (w : Bytes) : Bytes × Option Bytes :=
  let name := w.takeWhile (· != ascii '=')
  (name, if name.length < w.length then some (w.drop (name.length + 1)) else none)

/-- Lists variables with their values, as commands that would set them. -/
def listVariables (command : String) (vars : Variables) : Run Nat :=
  let row (v : Variable) : Bytes :=
    let value := v.value.map fun b => Bytes.ofText "=" ++ quotedText b
    .ofText command ++ v.name ++ value.getD [] ++ .ofText "\n"
  print (vars.byName.flatMap row)

/-- Marks variables, and sets those that come with a value. -/
def markVariables (mark : Variables → Bytes → Variables) (names : List Bytes) : Run Nat := do
  for w in names do
    let (name, value) := nameAndValue w
    if !Script.isName name then fail (name ++ .ofText ": bad variable name")
    else
      match value with
      | some v => setVariable name v
      | none => pure ()
      let sh ← get
      let isNew := (sh.vars.find? name).isNone
      set { sh with vars := mark sh.vars name }
      if isNew && sh.has .exportAll then exportVariable name
  return 0

/-- Hands variables on to programs. -/
def exportNames : Builtin := fun args => do
  let (options, names) ← takeOptions "p" args
  if !options.isEmpty || names.isEmpty then
    listVariables "export " ((← get).vars.filter Variable.isExported)
  else markVariables Variables.expose names

/-- Keeps variables from changing. -/
def fixNames : Builtin := fun args => do
  let (options, names) ← takeOptions "p" args
  if !options.isEmpty || names.isEmpty then
    listVariables "readonly " ((← get).vars.filter Variable.isFixed)
  else markVariables Variables.fix names

/-- Makes variables that the end of the function gives their old values back; a hyphen stands for
the options of the shell. -/
def hideNames : Builtin := fun args => do
  if (← get).hidden.isEmpty then fail (.ofText "not in a function")
  else
    for w in args do
      let (name, value) := nameAndValue w
      let isOptions := w = Bytes.ofText "-"
      if value.isNone && !isOptions && !Script.isName name then
        fail (name ++ .ofText ": bad variable name")
      modify fun sh =>
        match sh.hidden with
        | before :: outer =>
          let now : Hidden :=
            if isOptions then { before with options := some (before.options.getD sh.options) }
            else if before.values.any fun e => e.1 = name then before
            else { before with values := sh.variableNow name :: before.values }
          { sh with hidden := now :: outer }
        | [] => sh
      match value with
      | some v => setVariable name v
      | none => pure ()
    return 0

/-- Takes variables or functions away. -/
def unsetNames : Builtin := fun args => do
  let (options, names) ← takeOptions "fv" args
  for word in names do
    let name := word.takeWhile (· != ascii '=')
    if options.getLast? = some (ascii 'f') then
      modify fun sh => { sh with functions := sh.functions.filter (·.1 != name) }
    else if !Script.isName name then fail (name ++ .ofText ": bad variable name")
    else unsetVariable name
  return 0

/-- Sets an option or takes it away.  Without a terminal no jobs can be controlled. -/
def turnOption (o : ShellOption) (on : Bool) : Run Unit := do
  if o = .jobControl && on && !(← get).isCopy then
    complain (.ofText "can't access tty; job control turned off")
  else modify fun sh => { sh with options := o.turn on sh.options }

/-- Sets or takes away the options of a word, letter by letter, and gives the words that are left;
the letter `o` takes a name from the next word, and lists the options if there is none. -/
def turnOptions (on : Bool) (letters : Bytes) (rest : List Bytes) : Run (List Bytes) := do
  let mut left := rest
  for letter in letters do
    let shown : Bytes := .ofText "Illegal option -"
    if letter = ascii 'o' then
      match left with
      | [] => emit 1 (ShellOption.listing (!on) (← get).options)
      | name :: more =>
        left := more
        match ShellOption.ofName? name with
        | some o => turnOption o on
        | none => fail (shown ++ .ofText "o " ++ name)
    else
      match ShellOption.ofLetter? letter with
      | some o => turnOption o on
      | none => fail (shown ++ [letter])
  return left

/-- Sets options and arguments; `fuel` bounds the words. -/
def setOptions : (fuel : Nat) → List Bytes → Run Nat
  | 0, _ => return 0
  | _, [] => return 0
  | fuel + 1, word :: rest => do
    let on := word.head? = some (ascii '-')
    if word = .ofText "--" then
      modify fun sh => { sh with args := rest, option := (1, 0) }
      return 0
    else if word = .ofText "-" then
      turnOption .trace false
      modify fun sh => { sh with args := if rest.isEmpty then sh.args else rest }
      return 0
    else if !on && word.head? != some (ascii '+') then
      modify fun sh => { sh with args := word :: rest, option := (1, 0) }
      return 0
    else setOptions fuel (← turnOptions on word.tail rest)

/-- Sets options and arguments, or lists all variables. -/
def setArguments : Builtin := fun args => do
  if args.isEmpty then listVariables "" ((← get).vars.filter fun v => v.value.isSome)
  else setOptions args.length args

/-- Drops arguments of the script. -/
def dropArguments : Builtin := fun args => do
  let n ← match args with
    | [] => pure 1
    | w :: _ => naturalArgument w
  let sh ← get
  if sh.args.length < n then fail (.ofText "can't shift that many")
  else
    modify fun sh => { sh with args := sh.args.drop n }
    return 0

/-- Takes the next option of the script, or of the words that are given: puts its letter into a
variable and its argument into `OPTARG`.  The letters that count stand in a text, those that take an
argument with a colon behind; a colon in front of all keeps complaints back. -/
def takeOption : Builtin := fun args => do
  match args with
  | known :: name :: words =>
    let sh ← get
    let words := if words.isEmpty then sh.args else words
    let (next, done) := if words.length + 1 < sh.option.1 then (1, 0) else sh.option
    let isQuiet := known.head? = some (ascii ':')
    let current := if next ≤ 1 || done = 0 then [] else ((words[next - 2]?).getD []).drop done
    let fresh := current.isEmpty
    let word := if fresh then (words[next - 1]?).getD [] else current
    let next := if fresh then next + 1 else next
    let answer (letter : UInt8) (place : Nat × Nat) (status : Nat) : Run Nat := do
      setVariable (.ofText "OPTIND") (number place.1)
      modify fun sh => { sh with option := (1, 0) }
      if Script.isName name then setVariable name [letter]
      else fail (name ++ .ofText ": bad variable name")
      modify fun sh => { sh with option := place }
      return status
    let argument (b : Bytes) : Run Unit := setVariable (.ofText "OPTARG") b
    let wrong (letter sign : UInt8) (complaint : Bytes) (place : Nat × Nat) : Run Nat := do
      if isQuiet then
        argument [letter]
        answer sign place 0
      else
        emit 2 complaint
        unsetVariable (.ofText "OPTARG")
        answer (ascii '?') place 0
    if fresh && (word.head? != some (ascii '-') || word.length < 2) then
      answer (ascii '?') (next - 1, 0) 1
    else if fresh && word = .ofText "--" then answer (ascii '?') (next, 0) 1
    else
      match if fresh then word.tail else word with
      | [] => answer (ascii '?') (next - 1, 0) 1
      | letter :: rest =>
        let place := (next, ((words[next - 2]?).getD []).length - rest.length)
        match afterLetter letter known with
        | none =>
          wrong letter (ascii '?') (.ofText "Illegal option -" ++ [letter] ++ .ofText "\n") place
        | some false =>
          argument []
          answer letter place 0
        | some true =>
          match rest, words[next - 1]? with
          | [], none =>
            let complaint : Bytes := .ofText "No arg for -" ++ [letter] ++ .ofText " option\n"
            wrong letter (ascii ':') complaint (next, 0)
          | [], some w =>
            argument w
            answer letter (next + 1, 0) 0
          | rest, _ =>
            argument rest
            answer letter (next, 0) 0
  | _ => fail (.ofText "Usage: getopts optstring var [arg...]")
where
  /-- Whether a letter takes an argument, if it counts at all. -/
  afterLetter (letter : UInt8) : Bytes → Option Bool
    | [] => none
    | b :: r =>
      if b = letter && b != ascii ':' then some (r.head? = some (ascii ':'))
      else afterLetter letter r

/-! ### Aliases -/

/-- An alias as it is listed. -/
def aliasLine (a : Bytes × Bytes) : Bytes := a.1 ++ .ofText "=" ++ quotedText a.2 ++ .ofText "\n"

/-- Lets words stand for texts, or lists those that do. -/
def setAliases : Builtin := fun args => do
  if args.isEmpty then print ((byShelf shelfCount Prod.fst (← get).aliases).flatMap aliasLine)
  else
    let mut status := 0
    let mut shown : Bytes := []
    for w in args do
      let name := w.takeWhile (· != ascii '=')
      if name.length = 0 || name.length = w.length then
        match (← get).aliases.lookup w with
        | some text => shown := shown ++ aliasLine (w, text)
        | none =>
          emit 2 (.ofText "alias: " ++ w ++ .ofText " not found\n")
          status := 1
      else
        let text := w.drop (name.length + 1)
        modify fun sh =>
          let isOld := sh.aliases.any fun a => a.1 = name
          { sh with
            aliases :=
              if isOld then sh.aliases.map fun a => if a.1 = name then (name, text) else a
              else sh.aliases ++ [(name, text)] }
    emit 1 shown
    return status

/-- Takes aliases away. -/
def unsetAliases : Builtin := fun args => do
  let (options, names) ← takeOptions "a" args
  if !options.isEmpty then
    modify fun sh => { sh with aliases := [] }
    return 0
  else
    let mut status := 0
    for name in names do
      if (← get).aliases.any fun a => a.1 = name then
        modify fun sh => { sh with aliases := sh.aliases.filter fun a => a.1 != name }
      else
        emit 2 (.ofText "unalias: " ++ name ++ .ofText " not found\n")
        status := 1
    return status

/-! ### Flow -/

/-- Ends the shell. -/
def exitShell : Builtin := fun args => do
  match args with
  | [] => throw (.exited (← get).status)
  | w :: _ => throw (.exited (← naturalArgument w))

/-- Ends a function. -/
def endFunction : Builtin := fun args => do
  match args with
  | [] => throw (.returned (← get).status)
  | w :: _ => throw (.returned (← naturalArgument w))

/-- Leaves loops, or goes on with the next round of one. -/
def leaveLoops (stop : Nat → Stop) : Builtin := fun args => do
  let n ← match args with
    | [] => pure 1
    | w :: _ => do
      let n ← naturalArgument w
      if n = 0 then fail (.ofText "Illegal number: " ++ w) else pure n
  let loops := (← get).loops
  setStatus 0
  if loops = 0 then return 0 else throw (stop (min n loops))

/-! ### Signals -/

/-- The signals by their names without `SIG`, from number one on.  Some have no name but their
number. -/
def signalNames : List String :=
  let ordinary := WaitStatus.signalNames.map fun name => String.ofList (name.toList.drop 3)
  let fromFront := (List.range 15).map fun i => "RTMIN+" ++ toString (i + 1)
  let fromBack := (List.range 14).map fun i => "RTMAX-" ++ toString (14 - i)
  ordinary.set 15 "16" ++ ["32", "33", "RTMIN"] ++ fromFront ++ fromBack ++ ["RTMAX"]

/-- A signal by its name without `SIG`, in any case, or by its number; zero is the end of the
shell. -/
def signal? (b : Bytes) : Option Nat :=
  if !b.isEmpty && b.all isDecimal then
    let n := digitsValue 10 b
    if n ≤ 64 then some n else none
  else
    let upper := b.map fun x => if ascii 'a' ≤ x && x ≤ ascii 'z' then x - 32 else x
    if upper = Bytes.ofText "EXIT" then some 0
    else (signalNames.findIdx? fun name => Bytes.ofText name = upper).map (· + 1)

/-- A signal by its name without `SIG`. -/
def signalName (n : Nat) : String :=
  if n = 0 then "EXIT" else (signalNames[n - 1]?).getD (toString n)

/-- Reads what is to be sent to processes: the signal, and the processes; or, for the names of
signals, no signal. -/
def signalOptions : (fuel : Nat) → (lists : Bool) → (signal : Nat) → List Bytes →
    Run (Bool × Nat × List Bytes)
  | 0, lists, signal, args => return (lists, signal, args)
  | _, lists, signal, [] => return (lists, signal, [])
  | fuel + 1, lists, signal, word :: rest => do
    if word = .ofText "--" then return (lists, signal, rest)
    else if word.head? != some (ascii '-') || word.length < 2 then
      return (lists, signal, word :: rest)
    else
      let flags := word.tail.takeWhile (· != ascii 's')
      let lists := lists || !(← takeLetters "l" flags).isEmpty
      let named (name : Bytes) : Run Nat :=
        match signal? name with
        | some n => return n
        | none => fail (.ofText "invalid signal number or name: " ++ name)
      match word.tail.drop flags.length with
      | [] => signalOptions fuel lists signal rest
      | [_] =>
        match rest with
        | [] => fail (.ofText "No arg for -s option")
        | name :: rest => signalOptions fuel lists (← named name) rest
      | _ :: name => signalOptions fuel lists (← named name) rest

/-- The process in the background that a word names: its number, and the status of its end. -/
def jobNamed (w : Bytes) : Run (Nat × Nat) := do
  let jobs := (← get).jobs
  let wanted (job : Option (Nat × Nat)) (complaint : Bytes) : Run (Nat × Nat) :=
    match job with
    | some job => return job
    | none => fail complaint
  if [Bytes.ofText "%", .ofText "%%", .ofText "%+"].contains w then
    wanted jobs.head? (.ofText "No current job")
  else if w = .ofText "%-" then wanted jobs[1]? (.ofText "No previous job")
  else
    let n := digitsValue 10 w.tail
    let isNumber := w.head? = some (ascii '%') && w.tail.all isDecimal && 0 < n
    wanted (if isNumber then jobs.reverse[n - 1]? else none) (.ofText "No such job: " ++ w)

/-- Sends a signal to processes, or prints the names of signals. -/
def sendSignal : Builtin := fun args => do
  let direct : Option Nat := do
    let word ← args.head?
    if word.head? = some (ascii '-') && 1 < word.length then signal? word.tail else none
  let (lists, n, targets) ← match direct with
    | some n => pure (false, n, args.tail)
    | none => signalOptions (args.length + 1) false 15 args
  if lists then
    match targets with
    | [] =>
      print (.ofText (String.join (("0" :: signalNames).map (· ++ "\n"))))
    | w :: _ =>
      let n ← naturalArgument w
      let n := if 128 < n then n - 128 else n
      if n = 0 || 64 < n then
        fail (.ofText "invalid signal number or exit status: " ++ w)
      else print (.ofText (signalName n ++ "\n"))
  else if targets.isEmpty then
    fail (.ofText ("Usage: kill [-s sigspec | -signum | -sigspec] [pid | job]... or\n" ++
      "kill -l [exitstatus]"))
  else
    let mut status := 0
    for target in targets do
      let sh ← get
      let isJob := target.head? = some (ascii '%')
      let pid ← if isJob then pure (← jobNamed target).1
        else naturalArgument (if target.head? = some (ascii '-') then target.tail else target)
      if pid = sh.process && !sh.isCopy then takeSignal n
      else if pid = sh.process || sh.outside.contains pid then
        modify fun sh => { sh with sent := sh.sent ++ [(pid, n)] }
      else if isJob || !(sh.jobs.any fun j => j.1 = pid) then
        complain (.ofText "No such process\n")
        status := 1
    return status

/-- Sets the actions for signals and for the end of the shell. -/
def setActions : Builtin := fun args => do
  let (_, args) ← takeOptions "" args
  let resets (n : Nat) : Run Unit := modify fun sh =>
    { sh with traps := sh.traps.filter (·.1 != n) }
  let sets (action : Option Bytes) (names : List Bytes) : Run Nat := do
    let mut status := 0
    for name in names do
      match signal? name with
      | none =>
        emit 2 (.ofText "trap: " ++ name ++ .ofText ": bad trap\n")
        status := 1
      | some n =>
        resets n
        match action with
        | some a => modify fun sh => { sh with traps := (n, a) :: sh.traps }
        | none => pure ()
    return status
  match args with
  | [] =>
    for n in List.range 65 do
      match (← get).traps.lookup n with
      | some a =>
        emit 1 (.ofText "trap -- " ++ quotedText a ++ .ofText (" " ++ signalName n ++ "\n"))
      | none => pure ()
    return 0
  | [name] => sets none [name]
  | action :: names =>
    if (signal? action).isSome then sets none (action :: names)
    else if action = .ofText "-" then sets none names
    else sets (some action) names

/-! ### Files and conditions -/

/-- Changes the working directory: to the one before with a hyphen, and to that of the user
without a word.  A word that does not begin with a slash or a dot is sought along a path. -/
def changeDirectory : Builtin := fun args => do
  let (_, args) ← takeOptions "LP" args
  let sh ← get
  let held (name : String) : Bytes := (sh.vars.get? (.ofText name)).getD []
  let goesBack := args.head? = some (Bytes.ofText "-")
  let target := match args with
    | w :: _ => if goesBack then held "OLDPWD" else w
    | [] => held "HOME"
  let isFixed := target.isEmpty || target.head? = some slash ||
    (components target).head?.any fun c => c = .ofText "." || c = .ofText ".."
  let fronts := if isFixed then [[]] else splitOn (ascii ':') (held "CDPATH") ++ [[]]
  let path (front : Bytes) : Bytes :=
    if front.isEmpty then (if target.isEmpty then .ofText "." else target)
    else front ++ slash :: target
  let isThere (front : Bytes) : Bool := (sh.files.enterDirectory (path front)).isOk
  let front := (fronts.find? isThere).getD []
  match sh.files.enterDirectory (path front) with
  | .ok files =>
    modify fun sh => { sh with files }
    for (name, value) in [("OLDPWD", sh.files.here), ("PWD", files.here)] do
      setVariable (.ofText name) value.absolute
      exportVariable (.ofText name)
    if goesBack || !front.isEmpty then print (files.here.absolute ++ .ofText "\n") else return 0
  | .error _ => fail (.ofText "can't cd to " ++ target)

/-- Prints the working directory. -/
def showDirectory : Builtin := fun args => do
  let _ ← takeOptions "LP" args
  print ((← get).files.here.absolute ++ .ofText "\n")

/-- Tests a condition. -/
def testCondition : Builtin := fun args => do
  let sh ← get
  match Condition.holds sh.view args with
  | .ok holds => return if holds then 0 else 1
  | .error message => fail message

/-- Tests a condition in brackets. -/
def testBracketed : Builtin := fun args =>
  if (args.getLast?.bind List.head?) = some (ascii ']') then testCondition args.dropLast
  else fail (.ofText "missing ]")

/-- Waits for processes in the background, which have all ended. -/
def awaitJobs : Builtin := fun args => do
  let (_, words) ← takeOptions "" args
  let mut status := 0
  for w in words do
    status ←
      if w.head? = some (ascii '%') then pure (← jobNamed w).2
      else
        let n ← naturalArgument w
        pure (((← get).jobs.lookup n).getD 127)
  return status

/-- Lists processes in the background, of which none is running. -/
def listJobs : Builtin := fun args => do
  let (_, words) ← takeOptions "lp" args
  for w in words do
    let _ ← jobNamed w
  return 0

/-- Brings a process back to work, which takes a terminal. -/
def resumeJob : Builtin := fun args => do
  let (_, words) ← takeOptions "" args
  let _ ← jobNamed (words.headD [ascii '%'])
  fail (.ofText "job (null) not created under job control")

/-- The rights that a mask leaves, as they are given to the user, the group and the others. -/
def rightsText (mask : Nat) : String :=
  let rights (shift : Nat) : String :=
    let left := 7 - (mask >>> shift) % 8
    String.join ([(4, "r"), (2, "w"), (1, "x")].map fun (bit, letter) =>
      if left &&& bit = 0 then "" else letter)
  "u=" ++ rights 6 ++ ",g=" ++ rights 3 ++ ",o=" ++ rights 0

/-- The bits of letters for rights: for reading, writing, and running; `X` is for running where
somebody may do so already. -/
def rightsBits (rights : Nat) (letters : Bytes) : Nat :=
  let bit (b : UInt8) : Nat :=
    if b = ascii 'r' then 0o444 else if b = ascii 'w' then 0o222
    else if b = ascii 'x' then 0o111
    else if b = ascii 'X' && rights &&& 0o111 != 0 then 0o111 else 0
  letters.foldl (fun n b => n ||| bit b) 0

/-- The rights after changes to those of somebody: signs with letters behind them. -/
def changedRights? (whose : Nat) : (fuel : Nat) → (rights : Nat) → Bytes → Option Nat
  | 0, rights, _ => some rights
  | _, rights, [] => some rights
  | fuel + 1, rights, sign :: rest =>
    let shifts : List (Char × Nat) := [('u', 6), ('g', 3), ('o', 0)]
    let letters := rest.takeWhile (Bytes.ofText "rwxXs").contains
    let (bits, rest) : Nat × Bytes :=
      match rest.head?.bind fun b => shifts.find? fun s => ascii s.1 = b with
      | some (_, shift) => ((rights >>> shift) % 8 * 0o111, rest.tail)
      | none => (rightsBits rights letters, rest.drop letters.length)
    let others := rights - (rights &&& whose)
    let go := changedRights? whose fuel
    if sign = ascii '+' then go (rights ||| (bits &&& whose)) rest
    else if sign = ascii '-' then go (rights - (rights &&& bits &&& whose)) rest
    else if sign = ascii '=' then go (others ||| (bits &&& whose)) rest
    else none

/-- The rights after the changes that a word asks for, which commas part. -/
def rightsAfter? (rights : Nat) (w : Bytes) : Option Nat :=
  (splitOn (ascii ',') w).foldlM (fun rights part =>
    let who := part.takeWhile (Bytes.ofText "ugoa").contains
    let one (b : UInt8) : Nat :=
      if b = ascii 'u' then 0o700 else if b = ascii 'g' then 0o070
      else if b = ascii 'o' then 0o007 else 0o777
    let whose := if who.isEmpty then 0o777 else who.foldl (fun n b => n ||| one b) 0
    changedRights? whose part.length rights (part.drop who.length)) rights

/-- Sets the rights that new files do not get, in octal digits or as changes to those that they get,
or prints them. -/
def setMask : Builtin := fun args => do
  let (options, words) ← takeOptions "S" args
  match words with
  | [] =>
    let mask := (← get).mask
    let digits := String.ofList (Nat.toDigits 8 mask)
    let filled := String.ofList (List.replicate (4 - digits.length) '0') ++ digits
    print (.ofText ((if options.isEmpty then filled else rightsText mask) ++ "\n"))
  | w :: _ =>
    if !(w.head?.map isDecimal).getD false then
      match rightsAfter? (0o777 - (← get).mask) w with
      | some rights =>
        modify fun sh => { sh with mask := 0o777 - rights }
        return 0
      | none => fail (.ofText "Illegal mode: " ++ w)
    else if !w.all isOctal then fail (.ofText "Illegal number: " ++ w)
    else
      modify fun sh => { sh with mask := digitsValue 8 w % 0o1000 }
      return 0

/-- A command that does nothing, and ends with a status. -/
def still (status : Nat) : Builtin := fun _ => return status

/-- Prints how long the shell and its processes have worked, which is no time at all. -/
def showTimes : Builtin := fun _ => do
  let row := "0m0.000000s 0m0.000000s\n"
  print (.ofText (row ++ row))

/-- The commands that run no others, with a mark for those whose errors end the shell. -/
def builtins : List (String × Bool × Builtin) := [
  (":", true, still 0), ("true", false, still 0), ("false", false, still 1),
  ("echo", false, echoWords), ("printf", false, printFormat), ("read", false, readLine),
  ("export", true, exportNames), ("readonly", true, fixNames), ("local", true, hideNames),
  ("unset", true, unsetNames), ("set", true, setArguments), ("shift", true, dropArguments),
  ("getopts", false, takeOption), ("exit", true, exitShell), ("return", true, endFunction),
  ("break", true, leaveLoops .broke), ("continue", true, leaveLoops .continued),
  ("kill", false, sendSignal), ("trap", true, setActions), ("cd", false, changeDirectory),
  ("chdir", false, changeDirectory), ("pwd", false, showDirectory),
  ("test", false, testCondition), ("[", false, testBracketed),
  ("wait", false, awaitJobs), ("umask", false, setMask),
  ("alias", false, setAliases), ("unalias", false, unsetAliases), ("jobs", false, listJobs),
  ("fg", false, resumeJob), ("bg", false, resumeJob),
  ("times", true, showTimes), ("ulimit", false, still 0)]

/-- The command of this name that runs no others. -/
def builtin? (name : Bytes) : Option (Bool × Builtin) :=
  (builtins.find? fun b => Bytes.ofText b.1 = name).map (·.2)

/-- The commands that run others, with a mark for those whose errors end the shell. -/
def runners : List (String × Bool) := [
  ("eval", true), (".", true), ("exec", true), ("command", false), ("type", false),
  ("hash", false)]

end BuildDispatch.Host.Shell
