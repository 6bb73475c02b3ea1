import BuildDispatch.Host.Edit.Reader
import BuildDispatch.Host.Programs.Basic

/-!
Edits carried out: the lines of a text are taken one after the other, and all steps are done with
each of them.
-/

namespace BuildDispatch.Host.Programs

open Edit

/-- A line to be edited, or what stands in the place of lines that cannot be read. -/
inductive Row where
  | line (file text : Bytes) (isEnded : Bool)
  | trouble (status : Nat) (complaint : Bytes)

/-- The state of an edit. -/
structure Editor where
  /-- Lines are printed only where a step says so. -/
  isQuiet : Bool
  /-- A line is dropped that none follows where one is to be joined to it. -/
  isStandard : Bool
  /-- The byte that ends lines. -/
  ending : UInt8
  width : Nat
  /-- Lines that are not taken yet. -/
  rows : List Row
  /-- The line at hand, without its end. -/
  space : Bytes
  isEnded : Bool
  hold : Bytes
  /-- Whether the text that is kept came from lines with ends. -/
  holdIsEnded : Bool
  file : Bytes
  number : Nat
  out : Bytes
  /-- The last line that was printed had no end. -/
  isOpen : Bool
  /-- Text to be printed behind the line at hand. -/
  queue : List Bytes
  replaced : Bool
  /-- Steps whose ranges are open, by their places, with the last line if it is known. -/
  ranges : List (Nat × Option Nat)
  /-- The expression that was used last. -/
  regex : Option Regex
  /-- What is left of files that are read line by line. -/
  sources : List (Bytes × List Bytes)
  status : Nat
  stderr : Bytes
  stdin : Bytes
  files : Files

/-- Why the steps are not done to their end. -/
inductive Editor.Stop where
  /-- The line is done, and not printed. -/
  | dropped
  /-- The steps begin again with what is left of the line. -/
  | again
  | quit (status : Nat)
  /-- The same, without printing the line. -/
  | left (status : Nat)
  | fault (complaint : Bytes)

/-- A part of an edit. -/
abbrev Editing := ExceptT Editor.Stop (StateM Editor)

namespace Editor

/-! ### Output -/

/-- Prints text as it is; a line before it without an end gets one. -/
def put (b : Bytes) : Editing Unit := modify fun e =>
  { e with out := e.out ++ (if e.isOpen then [e.ending] else []) ++ b, isOpen := false }

/-- Prints a line, with its end if the line at hand has one. -/
def putLine (b : Bytes) : Editing Unit := do
  put b
  modify fun e =>
    if e.isEnded then { e with out := e.out ++ [e.ending] } else { e with isOpen := true }

/-- Prints the line at hand, unless lines are printed only where a step says so. -/
def printUnlessQuiet : Editing Unit := do
  if !(← get).isQuiet then putLine (← get).space

/-- Prints what is to follow the line at hand. -/
def flush : Editing Unit := do
  for b in (← get).queue do put b
  modify fun e => { e with queue := [] }

/-- Writes a line to a file. -/
def writeTo (path b : Bytes) : Editing Unit := do
  let e ← get
  let b := b ++ if e.isEnded then [e.ending] else []
  if path = .ofText "/dev/stdout" then set { e with out := e.out ++ b }
  else
    if path = .ofText "/dev/stderr" then set { e with stderr := e.stderr ++ b }
    else
      match e.files.placeToWrite path with
      | .ok place => set { e with files := e.files.append b place }
      | .error _ => return ()

/-- The content of a file that a step reads; a file that cannot be read is empty. -/
def content (path : Bytes) : Editing Bytes := do
  let e ← get
  if path = .ofText "/dev/stdin" && e.files.stream? path != none then
    match e.files.stream? path with
    | some (.file b) => return b
    | _ =>
      set { e with stdin := [] }
      return e.stdin
  else return (e.files.content? path).getD []

/-! ### Lines -/

/-- Whether no line follows. -/
def isLast (e : Editor) : Bool := e.rows.all fun
  | .line .. => false
  | .trouble .. => true

/-- Goes past what cannot be read. -/
def passTroubles (e : Editor) : List Row → Editor
  | .trouble status complaint :: rows =>
    passTroubles { e with status, stderr := e.stderr ++ complaint } rows
  | rows => { e with rows }

/-- Takes the next line, behind the one at hand or in its place; `false` if there is none. -/
def advance (joined : Bool) : Editing Bool := do
  flush
  modify fun e => passTroubles e e.rows
  let e ← get
  match e.rows with
  | .line file text isEnded :: rows =>
    set { e with
      rows, file, isEnded
      space := if joined then e.space ++ e.ending :: text else text
      number := e.number + 1
      replaced := false }
    return true
  | _ => return false

/-- The first match of an expression in the line at hand. -/
def regexOr (r : Option Regex) : Editing Regex := do
  match r.or (← get).regex with
  | some r =>
    modify fun e => { e with regex := some r }
    return r
  | none => throw (.fault (.ofText "no previous regular expression"))

/-- Whether the line at hand is one of an address. -/
def isAt (a : Address) : Editing Bool := do
  let e ← get
  match a with
  | .line n => return e.number = n
  | .every first step => return first ≤ e.number && (e.number - first) % step = 0
  | .last => return e.isLast
  | .matching r => return ((← regexOr r).match? e.space).isSome

/-- Opens a range, or leaves it closed if the line at hand is its last one. -/
def openRange (i : Nat) (last : RangeEnd) : Editing Unit := modify fun e =>
  let withLimit (n : Nat) : Editor :=
    if e.number < n then { e with ranges := (i, some n) :: e.ranges } else e
  match last with
  | .upTo (.line n) => withLimit n
  | .upTo _ => { e with ranges := (i, none) :: e.ranges }
  | .behind count => withLimit (e.number + count)
  | .multiple factor => if factor = 0 then e else withLimit ((e.number / factor + 1) * factor)

/-- Whether the line at hand is one that the step at a place is for. -/
def isFor (i : Nat) (s : Selection) : Editing Bool := do
  let close : Editing Unit := modify fun e =>
    { e with ranges := e.ranges.filter (·.1 != i) }
  let inside ← match s.first, s.last with
    | none, _ => pure true
    | some a, none => isAt a
    | some a, some last =>
      match (← get).ranges.lookup i with
      | some (some n) => do
        let number := (← get).number
        if n ≤ number then close
        pure (number ≤ n)
      | some none => do
        let isEnd ← match last with
          | .upTo a => isAt a
          | _ => pure true
        if isEnd then close
        pure true
      | none => do
        let isStart ← isAt a
        if isStart then openRange i last
        pure isStart
  return inside != s.isInverse

/-! ### Steps -/

/-- The steps behind the end of a block, given how many blocks are open within it. -/
def behindBlock : (depth : Nat) → List Step → List Step
  | _, [] => []
  | depth, s :: rest =>
    match s.action with
    | .opening => behindBlock (depth + 1) rest
    | .closing => if depth = 0 then rest else behindBlock (depth - 1) rest
    | _ => behindBlock depth rest

/-- The steps behind a label. -/
def behindLabel (name : Bytes) : List Step → List Step
  | [] => []
  | s :: rest =>
    match s.action with
    | .label n => if n = name then rest else behindLabel name rest
    | _ => behindLabel name rest

/-- A byte as it is listed. -/
def listed (b : UInt8) : Bytes :=
  let letters : List (UInt8 × Char) :=
    [(7, 'a'), (8, 'b'), (9, 't'), (10, 'n'), (11, 'v'), (12, 'f'), (13, 'r'), (92, '\\')]
  let digit (n : Nat) : UInt8 := .ofNat (48 + n % 8)
  match letters.lookup b with
  | some c => [ascii '\\', ascii c]
  | none =>
    if 0x20 ≤ b && b < 0x7F then [b]
    else [ascii '\\', digit (b.toNat / 64), digit (b.toNat / 8), digit b.toNat]

/-- A text as it is listed, in rows of at most so many bytes; zero means no limit. -/
def listing (width : Nat) (b : Bytes) : Bytes :=
  let (out, _) := b.foldl (fun (out, filled) x =>
    let shown := listed x
    if 0 < width && width - 1 < filled + shown.length then
      (out ++ Bytes.ofText "\\\n" ++ shown, shown.length)
    else (out ++ shown, filled + shown.length)) (([] : Bytes), 0)
  out ++ .ofText "$\n"

/-- A text up to the first end of a line in it. -/
def firstLine (e : Editor) : Bytes := e.space.takeWhile (· != e.ending)

/-- Replaces matches in the line at hand. -/
def substitute (s : Substitution) : Editing Unit := do
  let r ← regexOr s.regex
  let e ← get
  let (space, replaced) := s.apply r (2 * e.space.length + 3) 1 false ⟨none, e.space, []⟩
  if replaced then
    set { e with space, replaced := true }
    if s.prints then putLine space
    match s.file with
    | some path => writeTo path space
    | none => return ()

/-- Does what a step says that goes on with the next one; `isInner` says that the line at hand is
within a range that goes on. -/
def act (isInner : Bool) (a : Action) : Editing Unit := do
  let e ← get
  match a with
  | .text .front b => put b
  | .text .back b => modify fun e => { e with queue := e.queue ++ [b] }
  | .text .inPlace b =>
    if !isInner then put b
    throw .dropped
  | .readFile path =>
    let b ← content path
    modify fun e => { e with queue := e.queue ++ [b] }
  | .readLine path =>
    let rows := (e.sources.lookup path).getD (bareLines (← content path))
    modify fun e => { e with
      sources := (path, rows.tail) :: e.sources
      queue := e.queue ++ (rows.head?.map (· ++ [e.ending])).toList }
  | .writeFile path onlyFirst => writeTo path (if onlyFirst then e.firstLine else e.space)
  | .delete onlyFirst =>
    if onlyFirst && e.space.contains e.ending then
      set { e with space := e.space.drop (e.firstLine.length + 1) }
      throw .again
    else throw .dropped
  | .print onlyFirst => putLine (if onlyFirst then e.firstLine else e.space)
  | .number => put (.ofText (toString e.number ++ "\n"))
  | .name => put (e.file ++ .ofText "\n")
  | .clear => set { e with space := [] }
  | .list width => put (listing (width.getD e.width) e.space)
  | .next joined =>
    if e.isLast then
      if !(joined && e.isStandard) then printUnlessQuiet
      throw .dropped
    else
      if !joined then printUnlessQuiet
      let _ ← advance joined
  | .hold false => set { e with hold := e.space, holdIsEnded := e.isEnded }
  | .hold true =>
    set { e with hold := e.hold ++ e.ending :: e.space, holdIsEnded := e.isEnded }
  | .get false => set { e with space := e.hold, isEnded := e.holdIsEnded }
  | .get true =>
    set { e with space := e.space ++ e.ending :: e.hold, isEnded := e.holdIsEnded }
  | .exchange =>
    set { e with
      space := e.hold, isEnded := e.holdIsEnded, hold := e.space, holdIsEnded := e.isEnded }
  | .quit status silently => throw (if silently then .left status else .quit status)
  | .substitute s => substitute s
  | .exchangeBytes pairs =>
    set { e with space := e.space.map fun b => (pairs.lookup b).getD b }
  | .opening | .closing | .label _ | .jump .. => return ()

/-- Does the steps that are left of an edit. -/
def perform (whole : List Step) : (fuel : Nat) → List Step → Editing Unit
  | 0, _ => throw (.left 4)
  | _, [] => return ()
  | fuel + 1, s :: rest => do
    let i := whole.length - rest.length
    if ← isFor i s.lines then
      match s.action with
      | .jump condition name =>
        let replaced := (← get).replaced
        let goes := match condition with
          | .always => true
          | .replaced => replaced
          | .notReplaced => !replaced
        if condition != .always then modify fun e => { e with replaced := false }
        if !goes then perform whole fuel rest
        else if name.isEmpty then return ()
        else perform whole fuel (behindLabel name whole)
      | a =>
        act ((← get).ranges.any (·.1 = i)) a
        perform whole fuel rest
    else
      match s.action with
      | .opening => perform whole fuel (behindBlock 0 rest)
      | _ => perform whole fuel rest

/-- Edits line after line; the status if a step ended it all. -/
def cycles (whole : List Step) : (fuel : Nat) → (again : Bool) → Editing (Option Nat)
  | 0, _ => return some 4
  | fuel + 1, again => do
    if again then flush
    if !(← (if again then pure true else advance false)) then return none
    else
      let stop : Option Editor.Stop ← try
          perform whole 100000 whole
          pure none
        catch stop => pure (some stop)
      match stop with
      | none =>
        printUnlessQuiet
        cycles whole fuel false
      | some .dropped => cycles whole fuel false
      | some .again => cycles whole fuel true
      | some (.quit status) =>
        printUnlessQuiet
        flush
        put []
        return some status
      | some (.left status) => return some status
      | some (.fault b) => throw (.fault b)

end Editor

/-! ### The program -/

/-- The lines of a text that end with a byte. -/
def rowsOf (ending : UInt8) (file b : Bytes) : List Row :=
  let parts := splitOn ending b
  (parts.dropLast.map fun text => Row.line file text true) ++
    match parts.getLast? with
    | some [] | none => []
    | some text => [.line file text false]

/-- What is wrong with an edit, given its parts: words, and files with their names. -/
def editFault (parts : List (Option Bytes × Bytes)) : Fault → Bytes
  | .anywhere reason => .ofText reason
  | .at left reason => placeIn true 1 (whole - left) parts ++ .ofText ": " ++ reason
  | .about left reason => placeIn false 1 (whole - left) parts ++ .ofText ": " ++ reason
where
  /-- The length of the parts with what stands between them. -/
  whole : Nat := (parts.map fun p => p.2.length + 1).foldl Nat.add 0 - 1
  /-- A place in the parts, given the number of the next word and how much is still to be
  skipped. -/
  placeIn (isExact : Bool) (number skip : Nat) : List (Option Bytes × Bytes) → Bytes
    | [] => []
    | (name, text) :: rest =>
      if text.length < skip && !rest.isEmpty then
        placeIn isExact (if name.isNone then number + 1 else number) (skip - text.length - 1) rest
      else
        match name with
        | none =>
          let char := if isExact then skip else 0
          .ofText ("-e expression #" ++ toString number ++ ", char " ++ toString char)
        | some file =>
          let line := (text.take skip).count newline + 1
          .ofText "file " ++ file ++ .ofText (" line " ++ toString line)

/-- The files that an edit writes to. -/
def writtenFiles (l : List Step) : List Bytes :=
  l.filterMap fun s => match s.action with
    | .writeFile path _ => some path
    | .substitute s => s.file
    | _ => none

/-- A label that an edit jumps to and does not have. -/
def missingLabel? (l : List Step) : Option Bytes :=
  let labels := l.filterMap fun s => match s.action with
    | .label name => some name
    | _ => none
  l.findSome? fun s => match s.action with
    | .jump _ name => if name.isEmpty || labels.contains name then none else some name
    | _ => none

/-- Edits its input or files, line by line. -/
def edit (g : Given) : Effect :=
  let names : OptionNames := ⟨"nErsuz!", "efl", "i", [("quiet", 'n'), ("silent", 'n'),
    ("expression", 'e'), ("file", 'f'), ("regexp-extended", 'E'), ("in-place", 'i'),
    ("separate", 's'), ("null-data", 'z'), ("unbuffered", 'u'), ("line-length", 'l'),
    ("posix", '!')]⟩
  let usage : Bytes := .ofText
    "Usage: sed [OPTION]... \x7bscript-only-if-no-other-script\x7d [input-file]...\n\n"
  match names.among g g.args with
  | .error complaint => g.done 1 [] (complaintOf g.called complaint ++ usage)
  | .ok (o, words) =>
    let given := o.filter fun x => x.1 = ascii 'e' || x.1 = ascii 'f'
    let (parts, words) : List (Bool × Bytes) × List Bytes :=
      if given.isEmpty then (words.take 1 |>.map fun w => (false, w), words.drop 1)
      else (given.map fun x => (x.1 = ascii 'f', x.2), words)
    let isMissing (f : Bytes) : Bool := !isInput f && (g.files.content? f).isNone
    match parts.find? fun p => p.1 && isMissing p.2 with
    | some (_, f) =>
      g.refused 4 (.ofText "couldn't open file " ++ f ++ .ofText ": No such file or directory")
    | none =>
      let texts : List (Option Bytes × Bytes) := parts.map fun (isFile, b) =>
        if !isFile then (none, b)
        else
          let content := if isInput b then g.inputUnder b g.stdin else (g.files.content? b).getD []
          (some b, bare content)
      let whole := [newline].intercalate (texts.map (·.2))
      let isExtended := o.has 'E' || o.has 'r'
      let isStandard := g.isStandard || o.has '!'
      if texts.isEmpty then g.done 1 [] usage
      else
        let isPlain := o.has '!'
        match Edit.ofBytes ⟨⟨isExtended, false, false, true, false⟩, isStandard, isPlain⟩ whole with
        | .error f => g.refused (if f matches .anywhere _ then 4 else 1) (editFault texts f)
        | .ok steps =>
          match missingLabel? steps with
          | some name =>
            g.refused 4 (.ofText "can't find label for jump to \x60" ++ name ++ .ofText "'")
          | none =>
            let readParts := (parts.filter (·.1)).map (·.2)
            run { g with stdin := g.leftBy readParts } o (texts.length) (isFirstQuiet whole) steps
              words
where
  /-- Whether the first line of an edit says that lines are not printed by themselves. -/
  isFirstQuiet (b : Bytes) : Bool := (Bytes.ofText "#n").isPrefixOf b
  /-- What a line that was not taken leaves in the input. -/
  unread (ending : UInt8) : Row → Bytes
    | .line file text isEnded =>
      if file = inputWord then text ++ (if isEnded then [ending] else []) else []
    | .trouble .. => []
  /-- What a word of the program gives to edit. -/
  rowsAt (g : Given) (inPlace : Bool) (ending : UInt8) (stdin : Bytes) (files : Files)
      (word : Bytes) : List Row :=
    if isInput word && !inPlace then rowsOf ending word (g.inputUnder word stdin)
    else
      match files.lookup word with
      | .ok (.file b) => rowsOf ending word b
      | .ok (.program _) => []
      | .ok .directory =>
        let complaint : Bytes :=
          if inPlace then .ofText "couldn't edit " ++ word ++ .ofText ": not a regular file"
          else .ofText "read error on " ++ word ++ .ofText ": Is a directory"
        [.trouble 4 (complaintOf g.called complaint)]
      | .error e => [.trouble 2 (objection g.called "can't read " word e.reason)]
  /-- Edits what the words name. -/
  run (g : Given) (o : Options) (partCount : Nat) (startsQuiet : Bool) (steps : List Step)
      (words : List Bytes) : Effect :=
    let inPlace := o.has 'i'
    let suffix := ((o.values 'i').getLast?).getD []
    let ending : UInt8 := if o.has 'z' then 0 else newline
    let made (files : Files) (path : Bytes) : Files :=
      match files.placeToWrite path with
      | .ok place => files.write [] place
      | .error _ => files
    let files := (writtenFiles steps).foldl made g.files
    let words := if words.isEmpty then [inputWord] else words
    let unclosed : List (Nat × Option Nat) :=
      ((List.range steps.length).zip steps).filterMap fun (i, s) =>
        match s.lines.first, s.lines.last with
        | some (.line 0), some _ => some (i + 1, none)
        | _, _ => none
    let start : Editor := {
      isQuiet := o.has 'n' || startsQuiet
      isStandard := g.isStandard || o.has '!'
      ending := ending
      width := (((o.values 'l').getLast?).bind natural?).getD 70
      rows := [], space := [], isEnded := true, hold := [], holdIsEnded := true
      file := [], number := 0, out := []
      isOpen := false, queue := [], replaced := false, ranges := unclosed, regex := none
      sources := [], status := 0, stderr := [], stdin := g.stdin, files := files }
    let groups := if inPlace || o.has 's' then words.map ([·]) else [words]
    let (e, out, _) := groups.foldl (fun (e, out, quit) group =>
      if quit then (e, out, true)
      else
        let rows := group.flatMap (rowsAt g inPlace ending e.stdin e.files)
        let stdin := if group.any g.usesUp then [] else e.stdin
        let e := { e with
          rows, stdin, number := 0, out := [], isOpen := e.isOpen && !inPlace
          hold := [], holdIsEnded := true, ranges := unclosed }
        let (result, e) := ((Editor.cycles steps 1000000 false).run).run e
        let (e, quit) := match result with
          | .ok none => (e, false)
          | .ok (some status) => ({ e with status }, true)
          | .error (.fault b) =>
            let place := "-e expression #" ++ toString partCount ++ ", char 0: "
            let complaint := complaintOf g.called (Bytes.ofText place ++ b)
            ({ e with status := 1, stderr := e.stderr ++ complaint }, true)
          | .error _ => (e, true)
        let e := if quit && g.inputFile.isSome && group.any g.usesUp then
            { e with stdin := e.rows.flatMap (unread ending) }
          else e
        match if inPlace then group.head? else none with
        | none => (e, out ++ e.out, quit)
        | some word =>
          match e.files.content? word, e.files.placeToWrite word with
          | some before, .ok place =>
            let backup := if suffix.contains (ascii '*') then
                suffix.flatMap fun b => if b = ascii '*' then word else [b]
              else word ++ suffix
            let files := match if suffix.isEmpty then none else
                (e.files.placeToWrite backup).toOption with
              | some copy => e.files.write before copy
              | none => e.files
            ({ e with files := files.write e.out place }, out, quit)
          | _, _ => (e, out, quit))
      (start, ([] : Bytes), false)
    ⟨e.status, out, e.stderr, e.stdin, e.files⟩

end BuildDispatch.Host.Programs
