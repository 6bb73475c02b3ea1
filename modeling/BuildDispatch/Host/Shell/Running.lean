import BuildDispatch.Host.Programs
import BuildDispatch.Host.Programs.Gathering
import BuildDispatch.Host.Programs.Setting
import BuildDispatch.Host.Programs.Unwritten
import BuildDispatch.Host.Search
import BuildDispatch.Host.Shell.Builtins
import BuildDispatch.Host.Trimming

/-!
Running shell scripts: words are expanded, commands run, and what they run is looked for among the
functions, the commands of the shell itself and the programs of the system.
-/

namespace BuildDispatch.Host.Shell

/-! ### Programs -/

/-- What a search for a program found. -/
inductive Search where
  | program (found : Program)
  /-- Nothing to run: the status and the reason. -/
  | nothing (status : Nat) (reason : String)

/-- Why a file cannot be run. -/
def Search.refused (e : OsError) : Search :=
  match e with
  | .notFound | .notADirectory => .nothing 127 "not found"
  | .nameTooLong => .nothing 127 e.reason
  | e => .nothing 126 e.reason

/-- The program at a path. -/
def searchAt (files : Files) (path : Bytes) : Search :=
  match programAt files path path with
  | .ok found => .program found
  | .error e => .refused e

/-- The program of a name along a search path; what cannot be run counts for more than what is
missing. -/
def searchAlong (files : Files) (name : Bytes) : (best : Search) → List Bytes → Search
  | best, [] => best
  | best, directory :: r =>
    let path := if directory.isEmpty then name else directory ++ slash :: name
    match programAt files name path with
    | .ok found => .program found
    | .error .permissionDenied => searchAlong files name (.nothing 127 "Permission denied") r
    | .error .nameTooLong => searchAlong files name (.refused .nameTooLong) r
    | .error _ => searchAlong files name best r

/-- The directories in which programs are sought. -/
def searchPath (sh : Shell) : List Bytes :=
  splitOn (ascii ':') ((sh.vars.get? (.ofText "PATH")).getD [])

/-- The program that a word names, sought in these directories. -/
def search (files : Files) (name : Bytes) (directories : List Bytes) : Search :=
  if name.contains slash then searchAt files name
  else searchAlong files name (.nothing 127 "not found") directories

/-- The first path of a program along the search path, or the word itself if it has a slash. -/
def programPath? (sh : Shell) (name : Bytes) : Option Bytes :=
  if name.contains slash then
    match searchAt sh.files name with
    | .program _ => some name
    | .nothing .. => none
  else
    (sh.searchPath.map fun d => if d.isEmpty then name else d ++ slash :: name).find? fun path =>
      match searchAt sh.files path with
      | .program _ => true
      | .nothing .. => false

/-- The text of a signal that ended a program, as the shell reports it. -/
def signalReport (n : Nat) : Option String :=
  if 34 ≤ n then some ("Real-time signal " ++ toString (n - 34))
  else if 32 ≤ n then some ("Unknown signal " ++ toString n)
  else [(1, "Hangup"), (3, "Quit"), (4, "Illegal instruction"), (5, "Trace/breakpoint trap"),
    (6, "Aborted"), (7, "Bus error"), (8, "Floating point exception"), (9, "Killed"),
    (10, "User defined signal 1"), (11, "Segmentation fault"), (12, "User defined signal 2"),
    (14, "Alarm clock"), (15, "Terminated"), (16, "Stack fault"), (24, "CPU time limit exceeded"),
    (25, "File size limit exceeded"), (26, "Virtual timer expired"),
    (27, "Profiling timer expired"), (29, "I/O possible"), (30, "Power failure"),
    (31, "Bad system call")].lookup n

/-- The signal for a quotient that no integer holds. -/
def floatingPointSignal : Nat := 8

/-- Says what signal ended a program. -/
def reportSignal (n : Nat) : Run Unit := do
  match signalReport n with
  | some text => emit 2 (.ofText (text ++ "\n"))
  | none => return ()

/-! ### Words -/

/-- A word with the home directory in place of a tilde at its front, and, in values of variables,
behind a colon too. -/
def withHome (sh : Shell) (inValue : Bool) : (atFront : Bool) → Word → Word
  | _, [] => []
  | true, .text [b] false :: rest =>
    let ends := match rest with
      | [] => true
      | .text [c] _ :: _ => c = slash || (inValue && c = ascii ':')
      | _ => false
    match sh.vars.get? (.ofText "HOME") with
    | some home =>
      if b = ascii '~' && ends then
        let home : Word := if home.isEmpty then [] else [.text home true]
        home ++ withHome sh inValue false rest
      else .text [b] false :: withHome sh inValue (inValue && b = ascii ':') rest
    | none => .text [b] false :: rest
  | _, .text [b] false :: rest =>
    .text [b] false :: withHome sh inValue (inValue && b = ascii ':') rest
  | _, p :: rest => p :: withHome sh inValue false rest

/-- The complaint about a parameter without a value. -/
def unsetMessage (p : Param) (emptyToo : Bool) : Bytes :=
  let name : Bytes := match p with
    | .variable name => name
    | .position n => number n
    | .each => .ofText "@"
    | .joined => .ofText "*"
    | .count => .ofText "#"
    | .status => .ofText "?"
    | .self => .ofText "$"
    | .background => .ofText "!"
    | .options => .ofText "-"
  name ++ .ofText (": parameter not set" ++ if emptyToo then " or null" else "")

/-- The texts that an expansion of a parameter keeps apart, if it has a value: all arguments where
words are split, and else a single one. -/
def texts? (sh : Shell) (splits quoted : Bool) (p : Param) : Option (List Bytes) :=
  let isApart := splits && if quoted then p = .each else (sh.vars.get? (.ofText "IFS")).isSome
  match p with
  | .each | .joined => some (if isApart then sh.args else [sh.joinedArguments])
  | p => (sh.value? p).map ([·])

/-- The length of texts with something between them. -/
def lengthOf (texts : List Bytes) : Nat := (Bytes.ofText " ").intercalate texts |>.length

/-- The texts of a parameter; one without a value is empty, unless options refuse it. -/
def textsOf (splits quoted : Bool) (p : Param) : Run (List Bytes) := do
  let sh ← get
  match sh.texts? splits quoted p with
  | some texts => return texts
  | none => if sh.has .refuseUnset then fail (unsetMessage p false) else return [[]]

/-- Texts as a part of a word. -/
def grainsOf (quoted ofArguments : Bool) (texts : List Bytes) : List Grain :=
  let front : List Grain := if quoted && !ofArguments then [] else [.value ofArguments]
  front ++ [Grain.gap].intercalate
    (texts.map (Grain.ofBytes (if quoted then .quoted else .result)))

/-- The bytes that have a guard in the values of arguments. -/
def isGuarded (quoted : Bool) (b : UInt8) : Bool :=
  (0x81 ≤ b && b ≤ 0x88 && b != 0x85) || (quoted && (Bytes.ofText "!*?[=~:/-]\\").contains b)

/-- A text as a part of a word. -/
def grainsOfText (quoted : Bool) (b : Bytes) : List Grain := grainsOf quoted false [b]

/-- How many functions may run within each other. -/
def maxCalls : Nat := 1000

/-- How a shell came to its end. -/
inductive End where
  | status (n : Nat)
  | signal (n : Nat)
  deriving Repr, DecidableEq

/-- Whether a word names a function or a command of the shell itself. -/
def isOwnCommand (sh : Shell) (name : Bytes) : Bool :=
  sh.functions.any (·.1 = name) || (builtin? name).isSome ||
    runners.any fun r => Bytes.ofText r.1 = name

/-- Keeps the program of a stage of a pipeline in mind, which is sought in advance. -/
def trackStage (stage : Script) : Run Unit := do
  match stage with
  | .simple _ (word :: _) _ _ =>
    let sh ← get
    match Script.literal? word with
    | some name =>
      let isSought := Script.isName name && !sh.isOwnCommand name
      if isSought && (sh.programPath? name).isSome then track name
    | none => return ()
  | _ => return ()

/-- Does something for a command of the shell; that it could not write makes it fail. -/
def reportingLoss (name : Bytes) (act : Run Nat) : Run Nat := do
  modify fun sh => { sh with hasLost := false }
  let report : Run Nat := do
    if (← get).hasLost then
      complain (name ++ .ofText ": I/O error")
      return 1
    else return 0
  try
    let status ← act
    return status ||| (← report)
  catch stop =>
    let _ ← report
    throw stop

/-- Lets a program of this name write what it has done so far, and gives its status. -/
def writeFor (name called : Bytes) (status : Nat) (stdout stderr : Bytes) : Run Nat := do
  let sh ← get
  let e : Effect := ⟨status, stdout, stderr, [], sh.files⟩
  let e := match sh.refusal? 1 with
    | some reason => e.unwritten name.lossyText called reason
    | none => e
  emit 1 e.stdout
  emit 2 e.stderr
  return e.status

/-- Refuses variables that no shell can begin with. -/
def acceptGiven (block : Block) : Run Unit := do
  match block.lookup optionVariable with
  | some value =>
    let _ ← naturalArgument value
  | none => return ()

mutual

/-- A piece of a word, expanded.  Where words are not split, all arguments make one text. -/
def expandPiece : (fuel : Nat) → (splits : Bool) → Piece → Run (List Grain)
  | 0, _, _ => return []
  | _, _, .text b quoted =>
    return if b.isEmpty then [.mark] else Grain.ofBytes (if quoted then .quoted else .plain) b
  | _, splits, .value p quoted => do
    let texts ← textsOf splits quoted p
    let ofArguments := splits && quoted && p = .each && !(← get).args.isEmpty
    return grainsOf quoted ofArguments texts
  | _, splits, .size p quoted => do
    return grainsOfText quoted (number (lengthOf (← textsOf splits quoted p)))
  | fuel + 1, splits, .alternative p a emptyToo word quoted => do
    let isThere := match (← get).texts? splits quoted p with
      | some texts => !(emptyToo && lengthOf texts = 0)
      | none => false
    let other : Run (List Grain) := do
      let sh ← get
      let l ← expandWord fuel splits (if quoted then word else sh.withHome false true word)
      return if quoted then Grain.asQuoted l else Grain.asResult false l
    match a with
    | .present => if isThere then other else return []
    | .absent => if isThere then expandPiece fuel splits (.value p quoted) else other
    | .assigned =>
      if isThere then expandPiece fuel splits (.value p quoted)
      else
        let b ← expandText fuel word
        match p with
        | .variable name => setVariable name b
        | _ => fail (.ofText "bad variable name")
        return grainsOfText quoted b
    | .required =>
      if isThere then expandPiece fuel splits (.value p quoted)
      else
        let b ← expandText fuel word
        let name := (unsetMessage p false).takeWhile (· != ascii ':')
        fail (if word.isEmpty then unsetMessage p emptyToo else name ++ .ofText ": " ++ b)
  | fuel + 1, splits, .trimmed p t pattern quoted => do
    let texts ← textsOf splits quoted p
    let word := (← get).withHome false true pattern
    let trimming : Trimming :=
      ⟨Grain.pattern (← expandWord fuel false word), isGuarded (splits && quoted)⟩
    let ofArguments := splits && quoted && p = .each && !(← get).args.isEmpty
    return grainsOf quoted ofArguments (match t with
      | .front longest => trimming.front longest texts
      | .back longest => trimming.back longest texts)
  | fuel + 1, _, .output s quoted => do
    let (status, out) ← capture (subshell fuel false (match s with
      | some s => run fuel false s
      | none => setStatus 0))
    modify fun sh => { sh with inner := status }
    let isEnd (b : UInt8) : Bool := b = 0x0A
    return grainsOfText quoted (((out.filter (· != 0)).reverse.dropWhile isEnd).reverse)
  | fuel + 1, _, .number e quoted => do
    let text ← expandText fuel e
    let sh ← get
    match Arithmetic.evaluate sh.vars text with
    | .ok (n, vars) =>
      set { sh with vars := if sh.has .exportAll then vars.exposeChanges sh.vars else vars }
      return grainsOfText quoted (Arithmetic.integerText n)
    | .error .overflow => throw (.killed floatingPointSignal)
    | .error fault => fail (fault.message text)
  | _, _, .meaningless => fail (.ofText "Bad substitution")

/-- A word, expanded. -/
def expandWord : (fuel : Nat) → (splits : Bool) → Word → Run (List Grain)
  | 0, _, _ => return []
  | _, _, [] => return []
  | fuel + 1, splits, p :: w => do
    let first ← expandPiece fuel splits p
    return first ++ (← expandWord fuel splits w)

/-- The text that a word stands for where it is not split. -/
def expandText : (fuel : Nat) → Word → Run Bytes
  | 0, _ => return []
  | fuel + 1, w => do
    return Grain.text (← expandWord fuel false ((← get).withHome true true w))

/-- The words that words of a script stand for.  What follows a command that takes assignments is
not split where it looks like one. -/
def expandWords : (fuel : Nat) → (assigns : Bool) → List Word → Run (List Bytes)
  | 0, _, _ => return []
  | _, _, [] => return []
  | fuel + 1, assigns, w :: ws => do
    match if assigns then Script.assignment? w else none with
    | some (name, value) =>
      let b ← expandText fuel value
      return (name ++ ascii '=' :: b) :: (← expandWords fuel assigns ws)
    | none =>
      let grains ← expandWord fuel true ((← get).withHome false true w)
      let sh ← get
      let found := (Fields.ofGrains sh.separators grains).flatMap sh.names
      return found ++ (← expandWords fuel assigns ws)

/-- Redirections with the words for files and sources expanded. -/
def expandAims : (fuel : Nat) → List Redirection → Run (List Aim)
  | 0, _ => return []
  | _, [] => return []
  | fuel + 1, r :: rs => do
    let aim ← match r with
      | .write descriptor path behind forced => do
        pure (Aim.write descriptor (← expandText fuel path) behind forced)
      | .read descriptor path => do pure (Aim.read descriptor (← expandText fuel path))
      | .open descriptor path => do pure (Aim.open descriptor (← expandText fuel path))
      | .copy descriptor source => do
        let b ← expandText fuel source
        let isOne := b.length = 1 && b.all fun x => isDecimal x || x = ascii '-'
        if isOne then pure (Aim.copy descriptor b)
        else
          modify fun sh => { sh with line := sh.reached.headD sh.line }
          fail (.ofText "Syntax error: Bad fd number")
      | .document descriptor text => pure (Aim.document descriptor text)
    return aim :: (← expandAims fuel rs)

/-- Runs something to the end of a shell, with the action for the end. -/
def settle : (fuel : Nat) → Run Unit → Run End
  | 0, _ => return .status 2
  | fuel + 1, act => do
    let stop : Option Stop ← try
        act
        pure none
      catch stop => pure (some stop)
    let last := (← get).status
    let status? : Option Nat := match stop with
      | none | some (.broke _) | some (.continued _) => some last
      | some (.exited n) | some (.returned n) => some n
      | some .failed => some 2
      | some (.killed _) => none
    match status?, stop with
    | some status, _ =>
      match (← get).traps.lookup 0 with
      | none => return .status (status % 256)
      | some action =>
        modify fun sh => { sh with status, traps := sh.traps.filter (·.1 != 0) }
        try
          runText fuel false action
          return .status (status % 256)
        catch
          | .exited n => return .status (n % 256)
          | .killed n => return .signal n
          | _ => return .status (status % 256)
    | none, some (.killed n) => return .signal n
    | none, _ => return .status 2

/-- Runs something on a copy of the shell, and gives its status.  Actions for signals do not go
along. -/
def subshell : (fuel : Nat) → (tested : Bool) → Run Unit → Run Nat
  | 0, _, _ => return 2
  | fuel + 1, _, act => do
    let (result, _) ← onCopy (do
      modify fun sh => { sh with
          traps := sh.traps.filter (·.2.isEmpty), pending := [], loops := 0, isCopy := true
          reached := sh.reached.getLast?.toList }
      settle fuel act)
    takeEnd
    match result with
    | .ok (.status n) => return n
    | .ok (.signal n) =>
      reportSignal n
      return 128 + n
    | .error _ => return 2

/-- Runs the commands of a text. -/
def runText : (fuel : Nat) → (tested : Bool) → Bytes → Run Unit
  | 0, _, _ => return ()
  | fuel + 1, tested, b =>
    runFrom fuel tested false (.ofBytes b)

/-- Runs the commands of a text line by line; each line is read after those before it have run.
The lines of a file may be shown as they are read. -/
def runFrom : (fuel : Nat) → (tested isFile : Bool) → Script.Cursor → Run Unit
  | 0, _, _, _ => return ()
  | fuel + 1, tested, isFile, cursor => do
    let sh ← get
    let aliases := sh.aliases.map fun a => (a.1, Script.toChars a.2)
    let echoed (after : List Char) : Run Unit := do
      if isFile && sh.has .verbose then
        emit 2 (Script.toBytes (cursor.rest.take (cursor.rest.length - after.length)))
    match Script.Cursor.readLine { cursor with aliases } with
    | .error e =>
      echoed []
      modify fun sh => { sh with line := e.line }
      fail (.ofText ("Syntax error: " ++ e.reason))
    | .ok (s, after) =>
      echoed ((after.map (·.rest)).getD [])
      match s with
      | some s =>
        let reached := (after.map (·.line)).getD (cursor.line + cursor.rest.count '\n')
        modify fun sh => { sh with reached := reached :: sh.reached }
        run fuel tested s
        modify fun sh => { sh with reached := sh.reached.tail }
      | none => pure ()
      match after with
      | some after => runFrom fuel tested isFile after
      | none => return ()

/-- Makes descriptors lead where redirections say, one after the other. -/
def redirectAll : (fuel : Nat) → List Aim → Run Unit
  | 0, _ => return ()
  | _, [] => return ()
  | fuel + 1, aim :: aims => do
    redirect (fun text => do return Grain.text (← expandWord fuel false text)) aim
    redirectAll fuel aims

/-- Does something with redirections in place, and says whether they could be opened; if not, that
is its outcome. -/
def withAims : (fuel : Nat) → List Aim → (isStrict : Bool) → Run Unit → Run Bool
  | 0, _, _, _ => return false
  | fuel + 1, aims, isStrict, act => keepThese (aims.map Aim.descriptor) do
    let opened ← try
        redirectAll fuel aims
        pure true
      catch
        | .failed => if isStrict then throw .failed else pure false
        | stop => throw stop
    if opened then act else setStatus 2
    return opened

/-- Runs a command.  Where `tested` says so, its failure does not end the script. -/
def run : (fuel : Nat) → (tested : Bool) → Script → Run Unit
  | 0, _, _ => throw (.exited 2)
  | fuel + 1, tested, s => do
    let checked (act : Run Unit) : Run Unit := do
      act
      runPending fuel
      let sh ← get
      if sh.has .exitOnError && !tested && sh.status != 0 then throw (.exited sh.status)
    if (← get).has .noRun then return () else
    match s with
    | .simple assignments words redirections line =>
      checked (runSimple fuel tested assignments words redirections line)
    | .sequence first second =>
      run fuel tested first
      run fuel tested second
    | .both first second =>
      run fuel true first
      if (← get).status = 0 then run fuel tested second
    | .either first second =>
      run fuel true first
      if (← get).status != 0 then run fuel tested second
    | .negation s =>
      run fuel true s
      setStatus (if (← get).status = 0 then 1 else 0)
    | .pipeline stages =>
      for stage in stages do trackStage stage
      checked (do setStatus (← runStages fuel tested none stages))
    | .background s =>
      let status ← keepDescriptors do
        attachInput 0 ⟨[], none⟩
        subshell fuel false (run fuel false s)
      modify fun sh =>
        { sh with status := 0, jobs := (sh.process + 1 + sh.jobs.length, status) :: sh.jobs }
    | .branch condition body otherwise =>
      run fuel true condition
      if (← get).status = 0 then run fuel tested body
      else
        match otherwise with
        | some s => run fuel tested s
        | none => setStatus 0
    | .each name words body line =>
      modify fun sh => { sh with line }
      let words ← expandWords fuel false words
      setStatus 0
      inLoop (runEach fuel tested name body words)
    | .repeated goesOn condition body => inLoop (runRepeated fuel tested goesOn condition body 0)
    | .choice subject cases line =>
      modify fun sh => { sh with line }
      let b ← expandText fuel subject
      runCases fuel tested b cases
    | .apart body => checked (do setStatus (← subshell fuel tested (run fuel tested body)))
    | .redirected body redirections line =>
      modify fun sh => { sh with line }
      let aims ← expandAims fuel redirections
      if !(← withAims fuel aims false (run fuel tested body)) then checked (return ())
    | .function name body =>
      modify fun sh =>
        { sh with functions := (name, body) :: sh.functions.filter (·.1 != name), status := 0 }
where
  /-- Counts a loop while it runs. -/
  inLoop (act : Run Unit) : Run Unit := do
    let loops := (← get).loops
    modify fun sh => { sh with loops := loops + 1 }
    try
      act
      modify fun sh => { sh with loops }
    catch stop =>
      modify fun sh => { sh with loops }
      throw stop

/-- Runs the actions for signals that have come in. -/
def runPending : (fuel : Nat) → Run Unit
  | 0 => return ()
  | fuel + 1 => do
    match (← get).pending with
    | [] => return ()
    | n :: rest =>
      let status := (← get).status
      modify fun sh => { sh with pending := rest }
      match (← get).traps.lookup n with
      | some action =>
        runText fuel false action
        setStatus status
      | none => pure ()
      runPending fuel

/-- Runs one round of a loop, and says whether the loop goes on. -/
def runRound : (fuel : Nat) → (tested : Bool) → Script → Run Bool
  | 0, _, _ => return false
  | fuel + 1, tested, body => do
    try
      run fuel tested body
      return true
    catch
      | .broke n => if n ≤ 1 then return false else throw (.broke (n - 1))
      | .continued n => if n ≤ 1 then return true else throw (.continued (n - 1))
      | stop => throw stop

/-- Runs a body for one word after the other. -/
def runEach : (fuel : Nat) → (tested : Bool) → Bytes → Script → List Bytes → Run Unit
  | 0, _, _, _, _ => return ()
  | _, _, _, _, [] => return ()
  | fuel + 1, tested, name, body, w :: ws => do
    setVariable name w
    if ← runRound fuel tested body then runEach fuel tested name body ws

/-- Runs a body as long as its condition comes out as `goesOn`; `status` is that of the last
round. -/
def runRepeated : (fuel : Nat) → (tested goesOn : Bool) → (condition body : Script) →
    (status : Nat) → Run Unit
  | 0, _, _, _, _, status => setStatus status
  | fuel + 1, tested, goesOn, condition, body, status => do
    if ← runRound fuel true condition then
      if ((← get).status == 0) == goesOn then
        if ← runRound fuel tested body then
          runRepeated fuel tested goesOn condition body (← get).status
      else setStatus status

/-- Runs the body of the first case with a pattern that accepts a text. -/
def runCases : (fuel : Nat) → (tested : Bool) → Bytes → List (List Word × Option Script) → Run Unit
  | 0, _, _, _ => return ()
  | _, _, _, [] => setStatus 0
  | fuel + 1, tested, b, (patterns, body) :: rest => do
    if ← acceptedBy fuel b patterns then
      match body with
      | some s => run fuel tested s
      | none => setStatus 0
    else runCases fuel tested b rest

/-- Whether one of several patterns accepts a text. -/
def acceptedBy : (fuel : Nat) → Bytes → List Word → Run Bool
  | 0, _, _ => return false
  | _, _, [] => return false
  | fuel + 1, b, w :: ws => do
    let grains ← expandWord fuel false ((← get).withHome false true w)
    if Pattern.accepts (Grain.pattern grains) b then return true else acceptedBy fuel b ws

/-- Runs the stages of a pipeline, the first one on this input if there is one, and gives the status
of the last one. -/
def runStages : (fuel : Nat) → (tested : Bool) → (input : Option Bytes) → List Script → Run Nat
  | 0, _, _, _ => return 2
  | _, _, _, [] => return 0
  | fuel + 1, tested, input, s :: rest => keepDescriptors do
    match input with
    | some b => attachInput 0 ⟨b, none⟩
    | none => pure ()
    let stage := subshell fuel tested (run fuel tested s)
    match rest with
    | [] => stage
    | rest =>
      let (_, out) ← capture stage
      runStages fuel tested (some out) rest

/-- Sets variables one after the other, and gives what was set. -/
def assign : (fuel : Nat) → List (Bytes × Word) → Run (List (Bytes × Bytes))
  | 0, _ => return []
  | _, [] => return []
  | fuel + 1, (name, w) :: rest => do
    let b ← expandText fuel w
    setVariable name b
    return (name, b) :: (← assign fuel rest)

/-- The values of assignments, each seen by those behind it. -/
def expandAssignments : (fuel : Nat) → List (Bytes × Word) → Run (List (Bytes × Bytes))
  | 0, _ => return []
  | fuel + 1, assignments => do
    let before := (assignments.map (·.1)).map (← get).variableNow
    let values ← assign fuel assignments
    modify fun sh => sh.restoreVariables before.reverse
    return values

/-- Runs a simple command. -/
def runSimple : (fuel : Nat) → (tested : Bool) → List (Bytes × Word) → List Word →
    List Redirection → (line : Nat) → Run Unit
  | 0, _, _, _, _, _ => throw (.exited 2)
  | fuel + 1, tested, assignments, words, redirections, line => do
    modify fun sh => { sh with line, inner := 0 }
    let assigns := match words.head?.bind Script.literal? with
      | some b => ["export", "readonly", "local"].any fun s => Bytes.ofText s = b
      | none => false
    let words ← expandWords fuel assigns words
    let aims ← expandAims fuel redirections
    let trace (assignments : List (Bytes × Bytes)) : Run Unit := do
      if (← get).has .trace then
        let shown := assignments.map (fun (name, b) => name ++ ascii '=' :: b) ++ words
        let mark := ((← get).vars.get? (.ofText "PS4")).getD []
        emit 2 (mark ++ (Bytes.ofText " ").intercalate shown ++ .ofText "\n")
    match words with
    | [] =>
      discard <| withAims fuel aims false (do
        let values ← assign fuel assignments
        if !values.isEmpty then trace values
        modify fun sh => { sh with status := sh.inner })
    | name :: args =>
      let isPlain (w : Bytes) : Bool := [Bytes.ofText "-p", .ofText "--"].contains w
      let command : List Bytes :=
        if name = .ofText "command" then args.dropWhile isPlain else name :: args
      if command = [.ofText "exec"] then
        let values ← assign fuel assignments
        trace values
        redirectAll fuel aims
        setStatus 0
      else
        let isFunction := (← get).functions.any (·.1 = name)
        let isSpecial := !isFunction && (((builtin? name).map (·.1)).getD false ||
          runners.any fun r => r.2 && Bytes.ofText r.1 = name)
        let values ← if isSpecial then assign fuel assignments
          else expandAssignments fuel assignments
        trace values
        if isSpecial && name = .ofText "exec" then
          for (name, _) in values do exportVariable name
        discard <| withAims fuel aims isSpecial (do
          let act := runWords fuel tested false name args
          setStatus (← if isSpecial then act else withVariables values act))

/-- Runs a command by its words, and gives its status; `plain` says that it is no function. -/
def runWords : (fuel : Nat) → (tested plain : Bool) → Bytes → List Bytes → Run Nat
  | 0, _, _, _, _ => throw (.exited 2)
  | fuel + 1, tested, plain, name, args => do
    let sh ← get
    match if plain then none else sh.functions.lookup name with
    | some body => callFunction fuel tested body args
    | none =>
      match builtin? name with
      | some (isSpecial, act) =>
        try inNameOf name (reportingLoss name (act args))
        catch
          | .failed => if isSpecial && !plain then throw .failed else return 2
          | stop => throw stop
      | none =>
        if name = .ofText "eval" then inNameOf name do
          setStatus 0
          runText fuel tested ((Bytes.ofText " ").intercalate args)
          return (← get).status
        else if name = .ofText "." then
          match (← inNameOf name (takeOptions "" args)).2 with
          | [] => return 0
          | file :: _ => runFile fuel file
        else if name = .ofText "exec" then
          match args with
          | [] => return 0
          | program :: args =>
            let isBarred := search sh.files program sh.searchPath matches
              .nothing _ "Permission denied"
            let outcome ← inNameOf name (runProgram fuel program args)
            modify fun sh => { sh with traps := [] }
            throw (match outcome with
              | .status n => .exited (if isBarred then 126 else n)
              | .signal n => .killed n)
        else if name = .ofText "command" then
          match args with
          | [] => return 0
          | args =>
            match ← tryOptions args with
            | none => return 2
            | some (options, rest) =>
              match rest with
              | [] => return 0
              | w :: r =>
                let shows := options.contains (ascii 'v') || options.contains (ascii 'V')
                if shows then
                  inNameOf name (reportingLoss name (describe (!options.contains (ascii 'v')) [w]))
                else runWords fuel tested true w r
        else if name = .ofText "type" then
          inNameOf name (reportingLoss name (describe true args))
        else if name = .ofText "hash" then do
          try inNameOf name (reportingLoss name (trackNames args))
          catch
            | .failed => return 2
            | stop => throw stop
        else
          match ← runProgram fuel name args with
          | .status n => return n
          | .signal n =>
            reportSignal n
            return 128 + n
where
  /-- Takes the options of `command`; none if they are wrong. -/
  tryOptions (args : List Bytes) : Run (Option (Bytes × List Bytes)) := do
    try return some (← inNameOf (.ofText "command") (takeOptions "pvV" args))
    catch _ => return none
  /-- Searches programs in advance, forgets what was found, or lists it. -/
  trackNames (args : List Bytes) : Run Nat := do
    let (options, names) ← takeOptions "r" args
    let sh ← get
    if !options.isEmpty then
      set { sh with tracked := [] }
      return 0
    else
      let mut status := 0
      if names.isEmpty then
        emit 1 (Programs.ofLines ((byShelf 31 id sh.tracked).filterMap sh.programPath?))
      for name in names do
        if !sh.isOwnCommand name && !name.contains slash then
          if (sh.programPath? name).isSome then track name
          else
            let reason := if name.isEmpty then ": Permission denied" else ": not found"
            complain (name ++ .ofText reason)
            status := 1
      return status
  /-- Says what commands are. -/
  describe (long : Bool) (names : List Bytes) : Run Nat := do
    let mut status := 0
    for name in names do
      let sh ← get
      let isThere := name.contains slash && (sh.files.lookup name).isOk
      let isKeyword := Script.keywords.any fun k => Bytes.ofText k = name
      let isBuiltin := (builtin? name).isSome || runners.any fun r => Bytes.ofText r.1 = name
      let isSpecial := ((builtin? name).map (·.1)).getD false ||
        runners.any fun r => r.2 && Bytes.ofText r.1 = name
      let what : Option (String × Bytes) :=
        if isKeyword then some (" is a shell keyword", name)
        else if sh.functions.any (·.1 = name) then some (" is a shell function", name)
        else if isSpecial then some (" is a special shell builtin", name)
        else if isBuiltin then some (" is a shell builtin", name)
        else if isThere then some (" is ", name)
        else (sh.programPath? name).map fun path =>
          (if sh.tracked.contains name then " is a tracked alias for " else " is ", path)
      match what with
      | some (s, path) =>
        let isProgram := s.endsWith " "
        let shown : Bytes := if isProgram then path else []
        if isProgram then track name
        emit 1 ((if long then name ++ .ofText s ++ shown else path) ++ .ofText "\n")
      | none =>
        if long then emit 1 (name ++ .ofText ": not found\n")
        status := 127
    return status

/-- Runs a function. -/
def callFunction : (fuel : Nat) → (tested : Bool) → Script → List Bytes → Run Nat
  | 0, _, _, _ => throw (.exited 2)
  | fuel + 1, tested, body, args => do
    let sh ← get
    if maxCalls ≤ sh.depth then
      let what := "Maximum function recursion depth (" ++ toString maxCalls ++ ") reached"
      fail (.ofText what)
    modify fun s => { s with
      args, loops := 0, depth := s.depth + 1, hidden := ⟨[], none⟩ :: s.hidden, option := (1, 0) }
    let leave : Run Unit := modify fun s =>
      let before := s.hidden.headD ⟨[], none⟩
      { s.restoreVariables before.values with
        args := sh.args, loops := sh.loops, depth := sh.depth, hidden := sh.hidden
        option := sh.option
        options := before.options.getD s.options }
    let leave : Run Unit := do
      let improper := (← get).hidden.head?.bind fun h =>
        h.values.find? fun v => v.2.isNone && !Script.isName v.1 && v.1 != [ascii '-']
      leave
      match improper with
      | some (name, _) => fail (name ++ .ofText ": bad variable name")
      | none => return ()
    try
      run fuel tested body
      let status := (← get).status
      leave
      return status
    catch stop =>
      leave
      match stop with
      | .returned n => return n
      | stop => throw stop

/-- Runs the commands of a file in this shell. -/
def runFile : (fuel : Nat) → Bytes → Run Nat
  | 0, _ => throw (.exited 2)
  | fuel + 1, file => do
    let sh ← get
    let content ←
      if file.contains slash then
        match ← takeScript file with
        | .ok b => pure b
        | .error e =>
          inNameOf (.ofText ".") (fail
            (.ofText "cannot open " ++ file ++ .ofText (": " ++ openReason "No such file" e)))
      else
        let paths := sh.searchPath.map fun d => if d.isEmpty then file else d ++ slash :: file
        match paths.findSome? sh.files.content? with
        | some b => pure b
        | none => inNameOf (.ofText ".") (fail (file ++ .ofText ": not found"))
    setStatus 0
    try
      inNameOf file (runFrom fuel false true (.ofBytes content))
      return (← get).status
    catch
      | .returned n => return n
      | stop => throw stop

/-- Runs a program of the system. -/
def runProgram : (fuel : Nat) → Bytes → List Bytes → Run End
  | 0, _, _ => throw (.exited 2)
  | fuel + 1, name, args => do
    let sh ← get
    match search sh.files name sh.searchPath with
    | .nothing status reason =>
      complain (name ++ .ofText (": " ++ reason))
      return .status status
    | .program found =>
      track name
      let ending ← runFound fuel sh.vars.block found args
      takeEnd
      return ending

/-- Runs a program that was found on the variables and the words that it is given. -/
def runFound : (fuel : Nat) → Block → Program → List Bytes → Run End
  | 0, _, _, _ => throw (.exited 2)
  | fuel + 1, block, found, args => do
    let sh ← get
    match Programs.named? found.name with
    | some program =>
      let words := found.front ++ args
      let given : Given := ⟨found.called, words, block, sh.available 0, sh.view⟩
      let e := match sh.refusal? 1 with
        | some reason => Programs.runUnwritten found.name.lossyText program given reason
        | none => program given
      modify fun sh => { sh with files := e.files }
      leave 0 e.stdin
      emit 1 e.stdout
      emit 2 e.stderr
      return .status e.status
    | none =>
      match ← runCommandsOf fuel block found args with
      | some e => return e
      | none => runNested fuel block found.called (found.front ++ args)

/-- Runs a program that runs commands, if it is one other than a shell. -/
def runCommandsOf : (fuel : Nat) → Block → Program → List Bytes → Run (Option End)
  | 0, _, _, _ => throw (.exited 2)
  | fuel + 1, block, found, args => do
    let words := found.front ++ args
    if found.name = .ofText "env" then
      return some (← runInEnvironment fuel block found.called words)
    else if found.name = .ofText "xargs" then
      return some (← runGathered fuel block found.called words)
    else
      match Programs.deferralOf? found.name with
      | none => return none
      | some deferral =>
        let isStandard := (block.lookup (.ofText "POSIXLY_CORRECT")).isSome
        match deferral isStandard found.called words with
        | .done status out complaint =>
          return some (.status (← writeFor found.name found.called status out complaint))
        | .run command failure shown =>
          let name := command.headD []
          match findProgram (← get).files (block.lookup (.ofText "PATH")) name with
          | .error e =>
            emit 2 (Programs.objection found.called failure (shown name) e.reason)
            return some (.status (if e = .notFound then 127 else 126))
          | .ok program => return some (← runFound fuel block program command.tail)

/-- Runs a program on changed variables, or prints these variables. -/
def runInEnvironment : (fuel : Nat) → Block → (called : Bytes) → List Bytes → Run End
  | 0, _, _, _ => throw (.exited 2)
  | fuel + 1, block, called, args => do
    match Programs.settingOf called args block with
    | .error complaint =>
      emit 2 complaint
      return .status Programs.settingFailure
    | .ok setting =>
      match setting.command with
      | [] => return .status (← writeFor (.ofText "env") called 0 setting.listing [])
      | name :: words =>
        let (result, _) ← onCopy (do
          let sh ← get
          match setting.directory.mapM sh.files.enterDirectory with
          | .error e =>
            emit 2 (Programs.objection called "cannot change directory to "
              (inShellQuotes (setting.directory.getD [])) e.reason)
            return .status Programs.settingFailure
          | .ok files =>
            set { sh with files := files.getD sh.files }
            match findProgram (files.getD sh.files) setting.searchPath name with
            | .error e =>
              emit 2 (Programs.objection called "" (inQuotes name) e.reason)
              if e = .notFound && name.any (fun b => b = 0x20 || (0x09 ≤ b && b ≤ 0x0D)) then
                emit 2 (complaintOf called
                  (.ofText "use -[v]S to pass options in shebang lines"))
              return .status (if e = .notFound then 127 else 126)
            | .ok found => runFound fuel setting.block found words)
        match result with
        | .ok e => return e
        | .error stop => throw stop

/-- Runs the commands that words ask for on the input. -/
def runGathered : (fuel : Nat) → Block → (called : Bytes) → List Bytes → Run End
  | 0, _, _, _ => throw (.exited 2)
  | fuel + 1, block, called, args => do
    match Programs.gatheringOf called args ((← get).available 0) with
    | .error complaint =>
      emit 2 complaint
      return .status 1
    | .ok gathering =>
      leave 0 []
      emit 2 gathering.complaint
      let first := if gathering.complaint.isEmpty then 0 else 1
      runCommands fuel block called gathering.shows first gathering.commands

/-- Runs commands one after the other, which have nothing to read, and gives the status of the
whole. -/
def runCommands : (fuel : Nat) → Block → (called : Bytes) → (shows : Bool) → (status : Nat) →
    List (List Bytes) → Run End
  | 0, _, _, _, _, _ => throw (.exited 2)
  | fuel + 1, block, called, shows, status, commands => do
    match commands with
    | [] | [] :: _ => return .status status
    | (name :: words) :: rest =>
      if shows then emit 2 (spaced (name :: words) ++ .ofText "\n")
      let sh ← get
      match findProgram sh.files (block.lookup (.ofText "PATH")) name with
      | .error e =>
        emit 2 (Programs.objection called "" name e.reason)
        return .status (if e = .notFound then 127 else 126)
      | .ok found =>
        let ending ← keepDescriptors do
          attachInput 0 ⟨[], none⟩
          runFound fuel block found words
        match ending with
        | .signal n =>
          let what := ": terminated by signal " ++ toString n
          emit 2 (complaintOf called (name ++ .ofText what))
          return .status 125
        | .status n =>
          let (status, complaint, isLast) := Programs.gatheringStatus called name status n
          emit 2 complaint
          if isLast then return .status status
          else runCommands fuel block called shows status rest

/-- Runs another shell on its words: a script in a file, in a word, or in its input. -/
def runNested : (fuel : Nat) → Block → (called : Bytes) → List Bytes → Run End
  | 0, _, _, _ => return .status 2
  | fuel + 1, block, called, words => do
    let sh ← get
    let fresh := start called [] block sh.process [] sh.files
    let (result, _) ← onCopy (do
      set { fresh with
        process := sh.process + 1 + sh.jobs.length
        outside := sh.process :: sh.outside
        sent := sh.sent
        traps := sh.traps.filter fun t => t.1 != 0 && t.2.isEmpty
        descriptors := sh.descriptors.filter fun d => d.1 < 10
        outputs := sh.outputs
        inputs := sh.inputs
        positions := sh.positions }
      settle fuel (do
        acceptGiven block
        runShell fuel words))
    match result with
    | .ok e => return e
    | .error _ => return .status 2

/-- Runs a fresh shell on its words. -/
def runShell : (fuel : Nat) → List Bytes → Run Unit
  | 0, _ => throw (.exited 2)
  | fuel + 1, words => do
    let (inWord, rest) ← shellOptions fuel false words
    if !inWord && rest.isEmpty then turnOption .fromInput true
    let fromInput := (← get).has .fromInput
    if inWord then
      match rest with
      | [] => fail (.ofText "-c requires an argument")
      | script :: rest =>
        modify fun sh => { sh with name := rest.headD sh.name, args := rest.drop 1, line := 1 }
        runText fuel false script
    if fromInput then
      let script := (← get).available 0
      leave 0 []
      if !inWord then modify fun sh => { sh with args := rest }
      runFrom fuel false true (.ofBytes script)
    else if !inWord then
      let file := rest.headD []
      match ← takeScript file with
      | .error e =>
        let reason := openReason "No such file" e
        fail (.ofText "cannot open " ++ file ++ .ofText (": " ++ reason))
      | .ok script =>
        modify fun sh => { sh with name := file, args := rest.tail }
        runFrom fuel false true (.ofBytes script)

/-- Takes the options in front of the words of a shell: whether the script is in a word, and the
words that are left. -/
def shellOptions : (fuel : Nat) → (inWord : Bool) → List Bytes → Run (Bool × List Bytes)
  | 0, inWord, words => return (inWord, words)
  | _, inWord, [] => return (inWord, [])
  | fuel + 1, inWord, word :: rest => do
    let on := word.head? = some (ascii '-')
    if word = .ofText "-" || word = .ofText "--" then return (inWord, rest)
    else if !on && word.head? != some (ascii '+') then return (inWord, word :: rest)
    else
      let isOwn (letter : UInt8) : Bool := letter = ascii 'c' || letter = ascii 'l'
      let left ← turnOptions on (word.tail.filter (!isOwn ·)) rest
      shellOptions fuel (inWord || word.tail.contains (ascii 'c')) left

end

/-- How deep commands may lie in each other, and how often loops may run. -/
def maxDepth : Nat := 100000

/-- Runs a program that runs others to its end: how it ended, and what it left. -/
def runToEnd (sh : Shell) (program : Program) (block : Block) (words : List Bytes) : End × Shell :=
  let act : Run End := do
    match ← runCommandsOf maxDepth block program words with
    | some e => return e
    | none => settle maxDepth (do
      acceptGiven block
      runShell maxDepth (program.front ++ words))
  match (act.run).run sh with
  | (.ok e, sh) => (e, sh)
  | (.error _, sh) => (.status 2, sh)

end BuildDispatch.Host.Shell
