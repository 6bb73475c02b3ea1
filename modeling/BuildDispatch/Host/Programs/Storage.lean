import BuildDispatch.Host.Programs.Basic

/-!
Programs that make files and directories, change their rights, and take them away.
-/

namespace BuildDispatch.Host.Programs

/-- Makes files that are not there yet. -/
def touch : Given → Effect :=
  withOperands ⟨"acm", "", "", []⟩ "file operand" fun g o words =>
    g.forEach 1 words fun files word =>
      match files.lookup word with
      | .ok _ => .ok ([], files)
      | .error e =>
        if o.has 'c' then .ok ([], files)
        else
          match files.placeToWrite word with
          | .ok place => .ok ([], if e = .notFound then files.write [] place else files)
          | .error .isADirectory =>
            .error (objection g.called "setting times of " (inShellQuotes word) e.reason)
          | .error e => .error (objection g.called "cannot touch " (inShellQuotes word) e.reason)

/-- Takes files away; directories only where an option says so. -/
def remove (g : Given) : Effect :=
  withOptions ⟨"rRfvd", "", "", [("recursive", 'r'), ("force", 'f'), ("verbose", 'v'),
    ("dir", 'd')]⟩ 1 (fun g o words =>
    let isForced := o.has 'f'
    let isDeep := o.has 'r' || o.has 'R'
    let told (what : String) (word : Bytes) : Bytes :=
      if o.has 'v' then .ofText what ++ inShellQuotes word ++ .ofText "\n" else []
    if words.isEmpty && !isForced then g.misused 1 (.ofText "missing operand")
    else g.forEach 1 words fun files word =>
      let refused (reason : String) : Except Bytes (Bytes × Files) :=
        .error (objection g.called "cannot remove " (inShellQuotes word) reason)
      let refusedNear (word : Bytes) : Except Bytes (Bytes × Files) :=
        .error (complaintOf g.called
          (.ofText "refusing to remove '.' or '..' directory: skipping " ++ inShellQuotes word))
      let isNear := [some (Bytes.ofText "."), some (Bytes.ofText "..")].contains
        (components word).getLast?
      match files.lookup word, files.resolve word with
      | .ok .directory, .ok (.inside path) =>
        let isEmpty := (files.names (.inside path)).isEmpty
        if !isDeep && !o.has 'd' then refused "Is a directory"
        else if !isDeep && !isEmpty then refused "Directory not empty"
        else if isNear || files.here = .inside path || path.isEmpty then refusedNear word
        else .ok (told "removed directory " word, files.remove path)
      | .ok _, .ok (.inside path) => .ok (told "removed " word, files.remove path)
      | .ok .directory, _ => if isDeep && isNear then refusedNear word else refused "Is a directory"
      | .ok _, _ => refused "Permission denied"
      | .error e, _ =>
        if isForced && (e = .notFound || e = .notADirectory) then .ok ([], files)
        else refused e.reason) g

/-- The paths that lead to a path, and the path itself. -/
def leading (word : Bytes) : List Bytes :=
  let front : Bytes := if word.head? = some slash then [slash] else []
  let parts := components word
  (List.range parts.length).map fun i => front ++ [slash].intercalate (parts.take (i + 1))

/-- The files without an empty directory, or why it cannot be taken away. -/
def withoutDirectory (files : Files) (word : Bytes) : Except String Files :=
  match files.lookup word, files.resolve word with
  | .ok .directory, .ok (.inside path) =>
    if (components word).getLast? = some (.ofText ".") then .error "Invalid argument"
    else if !(files.names (.inside path)).isEmpty then .error "Directory not empty"
    else .ok (files.remove path)
  | .ok .directory, _ => .error "Device or resource busy"
  | .ok _, _ => .error "Not a directory"
  | .error e, _ => .error e.reason

/-- Takes empty directories away; with an option also those around each, up to the first that stays,
and says in advance what it takes away. -/
def removeDirectory : Given → Effect :=
  withOperands ⟨"pv", "", "", [("parents", 'p'), ("verbose", 'v')]⟩ "operand" fun g o words =>
  let outer (word : Bytes) : List Bytes :=
    if o.has 'p' then (leading word).dropLast.reverse else []
  let take (what : String) (e : Effect) (word : Bytes) : Effect × Bool :=
    let told := complaintOf g.called (.ofText "removing directory, " ++ inShellQuotes word)
    let e := if o.has 'v' then { e with stdout := e.stdout ++ told } else e
    match withoutDirectory e.files word with
    | .ok files => ({ e with files }, true)
    | .error reason =>
      let complaint := objection g.called what (inShellQuotes word) reason
      ({ e with status := 1, stderr := e.stderr ++ complaint }, false)
  words.foldl (fun e word =>
    ((outer word).foldl (fun (e, isGone) path =>
      if isGone then take "failed to remove directory " e path else (e, false))
      (take "failed to remove " e word)).1) (g.done 0 [] [])

/-- What a mode says about running files, if it says anything: so many octal digits, or letters for
users, signs and rights. -/
def runningMode? (mode : Bytes) : Option (Option Bool) :=
  if !mode.isEmpty && mode.all isOctal then
    if mode.length ≤ 4 then some (some (digitsValue 8 mode &&& 0o111 != 0)) else none
  else
    (splitOn (ascii ',') mode).foldlM (fun before clause => do
      let users := clause.takeWhile (Bytes.ofText "ugoa").contains
      match clause.drop users.length with
      | [] => none
      | sign :: rights =>
        let isRight (b : UInt8) : Bool := (Bytes.ofText "rwxXst").contains b
        if !(Bytes.ofText "+-=").contains sign || !rights.all isRight then none
        else if rights.contains (ascii 'x') then some (some (sign != ascii '-'))
        else some (if sign = ascii '=' then some false else before)) none

/-- Changes the rights of files, of which only that to be run counts. -/
def changeMode (g : Given) : Effect :=
  let isMode (w : Bytes) : Bool :=
    w.head? = some (ascii '-') && 1 < w.length && (runningMode? w).isSome
  let modes := g.args.filter isMode
  let others := g.args.filter (!isMode ·)
  let taken := ⟨"Rfvc", "", "", [("recursive", 'R'), ("silent", 'f'), ("quiet", 'f')]⟩
  withOptions taken 1 (fun g o words =>
  match modes ++ words with
  | [] => g.misused 1 (.ofText "missing operand")
  | [mode] => g.misused 1 (.ofText "missing operand after " ++ inQuotes mode)
  | mode :: words =>
    match runningMode? mode with
    | none => g.misused 1 (.ofText "invalid mode: " ++ inQuotes mode)
    | some may =>
      g.forEach 1 words fun files word =>
        match files.lookup word, files.resolve word with
        | .ok (.file _), .ok (.inside path) =>
          .ok ([], (may.map (files.setRunnable · path)).getD files)
        | .ok _, _ => .ok ([], files)
        | .error e, _ =>
          .error (if o.has 'f' then []
            else objection g.called "cannot access " (inShellQuotes word) e.reason))
    { g with args := others }

/-- Makes a directory at a path where nothing is yet, and says so if that is wanted. -/
def makeOne (called : Bytes) (tells : Bool) (files : Files) (word : Bytes) :
    Except Bytes (Bytes × Files) :=
  let refused (reason : String) : Except Bytes (Bytes × Files) :=
    .error (objection called "cannot create directory " (inShellQuotes word) reason)
  match files.resolve word with
  | .error e => refused e.reason
  | .ok place =>
    if (files.at? place).isSome then refused "File exists"
    else
      match place with
      | .inside path =>
        let told := complaintOf called (.ofText "created directory " ++ inShellQuotes word)
        .ok (if tells then told else [], files.set path .directory)
      | _ => refused "Permission denied"

/-- Makes directories, and with an option those around them. -/
def makeDirectory : Given → Effect :=
  withOperands ⟨"pv", "m", "", [("parents", 'p'), ("verbose", 'v'), ("mode", 'm')]⟩ "operand"
    fun g o words =>
  g.forEach 1 words fun files word =>
    let isDirectory (files : Files) (path : Bytes) : Bool :=
      files.lookup path matches .ok .directory
    if o.has 'p' then
      ((leading word).dropLast ++ [word]).foldlM (fun (told, files) path =>
        if isDirectory files path then .ok (told, files)
        else if path != word && (files.lookup path).isOk then
          let shown := inShellQuotes path
          .error (objection g.called "cannot create directory " shown "Not a directory")
        else
          (makeOne g.called (o.has 'v') files path).map fun (more, files) => (told ++ more, files))
        (([] : Bytes), files)
    else makeOne g.called (o.has 'v') files word

/-- Prints its input, and writes it to files. -/
def tee : Given → Effect := withOptions ⟨"a", "", "", [("append", 'a')]⟩ 1 fun g o words =>
  let (streams, files) := words.partition fun word => (descriptorOf? word).isSome
  let e := g.forEach 1 files fun files word =>
    match files.placeToWrite word with
    | .error e => .error (objection g.called "" (shellName word) e.reason)
    | .ok place =>
      let isBehind := o.has 'a'
      .ok ([], if isBehind then files.append g.stdin place else files.write g.stdin place)
  let copies (descriptor : Nat) : Bytes :=
    (streams.filter fun word => descriptorOf? word = some descriptor).flatMap fun _ => g.stdin
  { e with stdout := g.stdin ++ copies 1, stderr := e.stderr ++ copies 2, stdin := [] }

end BuildDispatch.Host.Programs
