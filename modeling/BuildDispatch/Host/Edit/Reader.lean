import BuildDispatch.Host.Edit

/-!
Reading of edits.
-/

namespace BuildDispatch.Host.Edit

/-- Why an edit cannot be read. -/
inductive Fault where
  /-- At a place, with so many bytes left behind it. -/
  | at (left : Nat) (reason : Bytes)
  /-- In the part of the edit that a place is in. -/
  | about (left : Nat) (reason : Bytes)
  /-- In an expression, wherever it stands. -/
  | anywhere (reason : String)

/-- How edits are written. -/
structure Writing where
  regex : Regex.Writing
  /-- Whether what the standard says goes before other rules. -/
  isStandard : Bool
  /-- Whether there are only those steps, addresses and flags that the standard knows. -/
  isPlain : Bool

/-- Reading from a text, of which the rest is at hand. -/
abbrev Reading := StateT Bytes (Except Fault)

namespace Reading

/-- Nothing can be read here. -/
def refuse {α : Type} (reason : String) : Reading α := do
  throw (.at (← get).length (.ofText reason))

/-- The next byte, if there is one. -/
def take? : Reading (Option UInt8) := do
  match ← get with
  | [] => return none
  | b :: r =>
    set r
    return some b

/-- Puts a byte back. -/
def putBack (b : Option UInt8) : Reading Unit := modify fun r => b.toList ++ r

/-- The next byte that is no blank. -/
def takeBehindBlanks? : Reading (Option UInt8) := do
  modify (·.dropWhile fun b => b = ascii ' ' || b = ascii '\t')
  take?

/-- The bytes at hand that fulfil a condition. -/
def takeWhile (holds : UInt8 → Bool) : Reading Bytes := do
  let taken := (← get).takeWhile holds
  modify (·.drop taken.length)
  return taken

/-- The number that begins with a digit. -/
def number (first : UInt8) : Reading Nat := do
  return digitsValue 10 (first :: (← takeWhile isDecimal))

/-- The number behind blanks, if there is one. -/
def number? : Reading (Option Nat) := do
  match ← takeBehindBlanks? with
  | some d =>
    if isDecimal d then return some (← number d)
    else
      putBack (some d)
      return none
  | none => return none

end Reading

open Reading

/-- The byte that ends a line. -/
def newline : UInt8 := 0x0A

/-! ### Texts and expressions between marks -/

/-- How many bytes the brackets take behind the opening one, the closing one included. -/
def bracketLength (b : Bytes) : Nat :=
  let front := if b.head? = some (ascii '^') then 1 else 0
  let front := if (b.drop front).head? = some (ascii ']') then front + 1 else front
  front + inner (b.drop front)
where
  /-- The same behind what may stand at the front. -/
  inner : Bytes → Nat
    | [] => 0
    | b :: r =>
      if b = ascii ']' then 1
      else if b = ascii '[' && r.head? = some (ascii ':') then
        let name := r.tail.takeWhile (· != ascii ':')
        if (Bytes.ofText ":]").isPrefixOf (r.tail.drop name.length) then
          name.length + 4 + inner (r.drop (name.length + 3))
        else 1 + inner r
      else 1 + inner r
  termination_by l => l.length
  decreasing_by all_goals simp [List.length_drop]; try omega

/-- Bytes up to a mark or the end of the line, what follows, and whether the mark was there.  A
backslash takes the meaning of the mark away; brackets of an expression hide it. -/
def delimited (isRegex : Bool) (mark : UInt8) : (fuel : Nat) → Bytes → Bytes × Bytes × Bool
  | 0, b => ([], b, false)
  | _, [] => ([], [], false)
  | fuel + 1, b :: r =>
    let more (front : Bytes) (rest : Bytes) : Bytes × Bytes × Bool :=
      let (taken, rest, isClosed) := delimited isRegex mark fuel rest
      (front ++ taken, rest, isClosed)
    if b = newline then ([], b :: r, false)
    else if b = mark then ([], r, true)
    else if b = ascii '\\' then
      match r with
      | [] => ([], [], false)
      | c :: rest =>
        if c = newline then
          if isRegex then more [newline] rest else more [b, newline] rest
        else if c = ascii 'n' && isRegex && mark != c then more [newline] rest
        else if c = mark && (isRegex || c != ascii '&') then more [c] rest
        else more [b, c] rest
    else if b = ascii '[' && isRegex then
      let n := bracketLength r
      let inner := r.take n
      if inner.contains newline then ([], r.dropWhile (· != newline), false)
      else more (b :: newlines inner) (r.drop n)
    else more [b] r
where
  /-- Newlines in brackets, where they are written as escapes. -/
  newlines : Bytes → Bytes
    | 0x5C :: 0x6E :: r => newline :: newlines r
    | b :: r => b :: newlines r
    | [] => []

/-- A byte that is written as an escape, given what follows the backslash, and the rest. -/
def escape? : Bytes → Option (UInt8 × Bytes)
  | [] => none
  | e :: r =>
    let numbered (base atMost : Nat) (isDigit : UInt8 → Bool) : Option (UInt8 × Bytes) :=
      let digits := (r.take atMost).takeWhile isDigit
      if digits.isEmpty then none
      else some (.ofNat (digitsValue base digits % 256), r.drop digits.length)
    if e = ascii 'd' then numbered 10 3 isDecimal
    else if e = ascii 'o' then numbered 8 3 isOctal
    else if e = ascii 'x' then numbered 16 2 fun b => (hexValue? b).isSome
    else if e = ascii 'c' then
      match r with
      | [] => none
      | b :: r => some (Case.upper.apply b ^^^ 0x40, r)
    else
      let letters : List (Char × UInt8) := [('a', 7), ('f', 12), ('r', 13), ('t', 9), ('v', 11)]
      letters.findSome? fun (c, b) => if ascii c = e then some (b, r) else none

/-- A text with its escapes undone; those that come out as one of `kept` stay behind a backslash. -/
def unescaped (kept : Bytes) : (fuel : Nat) → Bytes → Bytes
  | 0, b => b
  | _, [] => []
  | fuel + 1, b :: r =>
    if b != ascii '\\' then b :: unescaped kept fuel r
    else
      match escape? r, r with
      | some (x, rest), _ =>
        (if kept.contains x then [b, x] else [x]) ++ unescaped kept fuel rest
      | none, c :: rest => b :: c :: unescaped kept fuel rest
      | none, [] => [b]

/-- Takes the text between two marks, of which the first is already taken. -/
def between (isRegex : Bool) (mark : UInt8) (missing : String) : Reading Bytes := do
  let b ← get
  let (taken, rest, isClosed) := delimited isRegex mark (b.length + 1) b
  set rest
  if isClosed then
    let kept := if isRegex then [] else Bytes.ofText "&\\"
    return unescaped kept (taken.length + 1) taken
  else refuse missing

/-- The expression of a text with the number of its groups; an empty text means the expression that
was used last. -/
def expression (w : Regex.Writing) (hasFlags : Bool) (b : Bytes) :
    Reading (Option Regex × Nat) := do
  if b.isEmpty then
    if hasFlags then refuse "no previous regular expression" else return (none, 9)
  else
    match Regex.readBytes w b with
    | .ok (r, groups) => return (some r, groups)
    | .error e => refuse e

/-- Refuses an expression with a set that is written like the name of a class. -/
def noBareClass (w : Writing) (b : Bytes) : Reading Unit := do
  if (!w.isStandard || w.isPlain) && Regex.hasBareClass w.regex b then
    throw (.anywhere Regex.bareClass)

/-! ### Addresses -/

/-- An address, or the end of a range. -/
inductive Bound where
  | address (a : Address)
  | relative (e : RangeEnd)

/-- The address that begins with this byte, if one does. -/
def bound? (w : Writing) (first : Option UInt8) : Reading (Option Bound) := do
  let some b := first | return none
  if b = ascii '/' || b = ascii '\\' then
    let mark ← if b = ascii '/' then pure b else pure ((← take?).getD newline)
    let text ← between true mark "unterminated address regex"
    let flags ← takeWhile fun b =>
      !w.isPlain && [ascii 'I', ascii 'M', ascii ' ', ascii '\t'].contains b
    let foldsCase := flags.contains (ascii 'I')
    let inRows := flags.contains (ascii 'M')
    let (r, _) ← expression { w.regex with foldsCase, inRows } (foldsCase || inRows) text
    noBareClass w text
    return some (.address (.matching r))
  else if isDecimal b then
    let n ← number b
    let after ← takeBehindBlanks?
    if after = some (ascii '~') && !w.isPlain then
      let step := (← number?).getD 0
      return some (.address (if step = 0 then .line n else .every n step))
    else
      putBack after
      return some (.address (.line n))
  else if (b = ascii '+' || b = ascii '~') && !w.isPlain then
    let n := (← number?).getD 0
    return some (.relative (if b = ascii '+' then .behind n else .multiple n))
  else if b = ascii '$' then return some (.address .last)
  else return none

/-- The lines that a step is for, and the byte behind, given the first byte of the step. -/
def selection (w : Writing) (first : Option UInt8) :
    Reading (Selection × Option UInt8) := do
  let start : Option Address ← match ← bound? w first with
    | none => pure none
    | some (.relative (.behind 0)) | some (.relative (.multiple 0)) => pure (some (.every 0 1))
    | some (.relative _) => refuse "invalid usage of +N or ~N as first address"
    | some (.address a) => pure (some a)
  let (chosen, after) ← match start with
    | none => pure (⟨none, none, false⟩, first)
    | some a => do
      let after ← takeBehindBlanks?
      let (last, after) ←
        if after = some (ascii ',') then do
          match ← bound? w (← takeBehindBlanks?) with
          | none => refuse "unexpected \x60,'"
          | some (.address a) => pure (some (RangeEnd.upTo a), ← takeBehindBlanks?)
          | some (.relative e) => pure (some e, ← takeBehindBlanks?)
        else pure (none, after)
      let endsAtMatch := match last with
        | some (.upTo (.matching _)) => true
        | _ => false
      let isZero := match a with
        | .line 0 => true
        | _ => false
      if isZero && (w.isPlain || !endsAtMatch) then refuse "invalid usage of line address 0"
      else pure ((⟨some a, last, false⟩ : Selection), after)
  if after = some (ascii '!') then
    let after ← takeBehindBlanks?
    if after = some (ascii '!') then refuse "multiple \x60!'s"
    else return ({ chosen with isInverse := true }, after)
  else return (chosen, after)

/-! ### Steps -/

/-- Takes the end of a step. -/
def stepEnd : Reading Unit := do
  let b ← takeBehindBlanks?
  if b = some (ascii '}') || b = some (ascii '#') then putBack b
  else if b = none || b = some newline || b = some (ascii ';') then return ()
  else refuse "extra characters after command"

/-- Takes the rest of a line as the name of a file. -/
def fileName : Reading Bytes := do
  let first ← takeBehindBlanks?
  putBack first
  let name ← takeWhile (· != newline)
  if name.isEmpty then refuse "missing filename in r/R/w/W commands"
  else
    let _ ← take?
    return name

/-- Takes a label. -/
def labelName : Reading Bytes := do
  putBack (← takeBehindBlanks?)
  takeWhile fun b => !([ascii ';', ascii '}', ascii ' '].contains b || (0x09 ≤ b && b ≤ 0x0D))

/-- Lines of text up to one whose end has no backslash before it; escapes are undone. -/
def textLines : (fuel : Nat) → Bytes → Bytes × Bytes
  | 0, b => ([], b)
  | _, [] => ([newline], [])
  | fuel + 1, b :: r =>
    let more (x : UInt8) (rest : Bytes) : Bytes × Bytes :=
      let (text, rest) := textLines fuel rest
      (x :: text, rest)
    if b = newline then ([newline], r)
    else if b = ascii '\\' then
      match if r.head? = some (ascii 'n') then some (newline, r.tail) else escape? r, r with
      | some (x, rest), _ => more x rest
      | none, c :: rest => more c rest
      | none, [] => ([newline], [])
    else more b r

/-- Takes the text that is put beside a line; in plain edits it stands on lines of its own. -/
def sideText (isPlain : Bool) : Reading Bytes := do
  match ← takeBehindBlanks? with
  | none => refuse "expected \\ after \x60a', \x60c' or \x60i'"
  | some b =>
    let isBlank (b : UInt8) : Bool := b = ascii ' ' || b = ascii '\t'
    let isBare := b = ascii '\\' && (← get).isEmpty
    let front ←
      if b = ascii '\\' then do
        let rest ← get
        let behind := rest.dropWhile isBlank
        if behind.head? = some newline then
          set behind.tail
          pure []
        else if (rest.takeWhile isBlank).isEmpty then pure (← take?).toList
        else pure []
      else do
        if isPlain then refuse "expected \\ after \x60a', \x60c' or \x60i'"
        putBack (some b)
        pure []
    let rest ← get
    if rest.isEmpty && front.isEmpty && isBare then
      if isPlain then refuse "incomplete command" else return []
    else
      let (text, rest) := textLines (rest.length + 1) rest
      set rest
      return front ++ text

/-- The parts of a replacement. -/
def parts : (fuel : Nat) → Bytes → List Part
  | 0, _ => []
  | _, [] => []
  | _, [b] => [if b = ascii '&' then .group 0 else .text [b]]
  | fuel + 1, b :: c :: r =>
    if b = ascii '&' then .group 0 :: parts fuel (c :: r)
    else if b != ascii '\\' then .text [b] :: parts fuel (c :: r)
    else if isDecimal c then .group (c.toNat - 48) :: parts fuel r
    else
      let cases : List (Char × Part) :=
        [('U', .letters (some .upper)), ('L', .letters (some .lower)), ('E', .letters none),
          ('u', .letter .upper), ('l', .letter .lower)]
      match cases.find? fun x => ascii x.1 = c with
      | some (_, p) => p :: parts fuel r
      | none => .text [if c = ascii 'n' then newline else c] :: parts fuel r

/-- Takes the flags of a substitution. -/
def flags (isPlain : Bool) (w : Regex.Writing) :
    (fuel : Nat) → Substitution → Reading (Substitution × Regex.Writing)
  | 0, s => return (s, w)
  | fuel + 1, s => do
    match ← takeBehindBlanks? with
    | none => return (s, w)
    | some b =>
      let isAdded := !isPlain && (Bytes.ofText "iImM").contains b
      if isAdded && (b = ascii 'i' || b = ascii 'I') then
        flags isPlain { w with foldsCase := true } fuel s
      else if isAdded then flags isPlain { w with inRows := true } fuel s
      else if b = ascii 'p' then
        if s.prints then refuse "multiple \x60p' options to \x60s' command"
        else flags isPlain w fuel { s with prints := true }
      else if b = ascii 'g' then
        if s.isGlobal then refuse "multiple \x60g' options to \x60s' command"
        else flags isPlain w fuel { s with isGlobal := true }
      else if b = ascii 'w' then return ({ s with file := some (← fileName) }, w)
      else if isDecimal b then
        if s.first != 0 then refuse "multiple number options to \x60s' command"
        else
          let n ← number b
          if n = 0 then refuse "number option to \x60s' command may not be zero"
          else flags isPlain w fuel { s with first := n }
      else if b = ascii '}' || b = ascii '#' then
        putBack (some b)
        return (s, w)
      else if b = newline || b = ascii ';' then return (s, w)
      else refuse "unknown option to \x60s'"

/-- Takes a substitution. -/
def substitution (w : Writing) : Reading Substitution := do
  let missing := "unterminated \x60s' command"
  let some mark ← take? | refuse missing
  let pattern ← between true mark missing
  let replacement ← between false mark missing
  let parts := parts (replacement.length + 1) replacement
  let (s, flagged) ←
    flags w.isPlain w.regex ((← get).length + 1) ⟨none, parts, 0, false, false, none⟩
  let hasFlags := flagged.foldsCase || flagged.inRows
  let (regex, groups) ← expression flagged hasFlags pattern
  let highest := parts.foldl (fun n p => match p with
    | .group m => max n m
    | _ => n) 0
  if groups < highest && !w.isStandard then
    refuse ("invalid reference \\" ++ toString highest ++ " on \x60s' command's RHS")
  else
    noBareClass w pattern
    return { s with regex, first := max 1 s.first }

/-- The bytes of one side of an exchange. -/
def exchanged : Bytes → Bytes
  | 0x5C :: c :: r => (if c = ascii 'n' then newline else c) :: exchanged r
  | b :: r => b :: exchanged r
  | [] => []

/-- Takes an exchange of bytes by others. -/
def exchangePairs : Reading (List (UInt8 × UInt8)) := do
  let missing := "unterminated \x60y' command"
  let some mark ← take? | refuse missing
  let source := exchanged (← between false mark missing)
  let target := exchanged (← between false mark missing)
  if source.length != target.length then
    refuse "strings for \x60y' command are different lengths"
  else
    stepEnd
    return source.zip target

/-- The actions without anything behind their letters. -/
def plainActions : List (Char × Action) := [
  ('=', .number), ('d', .delete false), ('D', .delete true), ('p', .print false),
  ('P', .print true), ('n', .next false), ('N', .next true), ('h', .hold false), ('H', .hold true),
  ('g', .get false), ('G', .get true), ('x', .exchange), ('z', .clear), ('F', .name)]

/-- Refuses a step that no letter stands for. -/
def unknownStep {α : Type} (letter : UInt8) : Reading α := do
  throw (.at (← get).length (.ofText "unknown command: \x60" ++ [letter] ++ .ofText "'"))

/-- The action of a letter; `depth` says how many blocks are open. -/
def action (w : Writing) (chosen : Selection) (depth : Nat) (letter : UInt8) :
    Reading Action := do
  let has (s : String) : Bool := (Bytes.ofText s).contains letter
  match plainActions.find? fun a => ascii a.1 = letter with
  | some (_, a) =>
    stepEnd
    return a
  | none =>
    if has "\x7b" then return .opening
    else if has "\x7d" then
      if depth = 0 then refuse "unexpected \x60\x7d'"
      else if chosen.first.isSome then refuse "\x7d doesn't want any addresses"
      else
        stepEnd
        return .closing
    else if has ":" then
      if chosen.first.isSome then refuse ": doesn't want any addresses"
      else
        let name ← labelName
        if name.isEmpty then refuse "\":\" lacks a label" else return .label name
    else if has "btT" then
      let name ← labelName
      return .jump (if has "b" then .always else if has "t" then .replaced else .notReplaced) name
    else if has "aic" then
      let side : Side := if has "a" then .back else if has "i" then .front else .inPlace
      return .text side (← sideText w.isPlain)
    else if has "r" then return .readFile (← fileName)
    else if has "R" then return .readLine (← fileName)
    else if has "wW" then return .writeFile (← fileName) (has "W")
    else if has "qQ" then
      if chosen.last.isSome then refuse "command only uses one address"
      else
        let status ← if w.isPlain then pure none else number?
        stepEnd
        return .quit (status.getD 0) (has "Q")
    else if has "l" then
      let width ← if w.isPlain then pure none else number?
      stepEnd
      return .list width
    else if has "s" then return .substitute (← substitution w)
    else if has "y" then return .exchangeBytes (← exchangePairs)
    else unknownStep letter

/-- Whether a version is none later than 4.9, like which edits are read. -/
def isKnownVersion (b : Bytes) : Bool :=
  let front := b.takeWhile isDecimal
  let behind := b.drop front.length
  let second := behind.tail.takeWhile isDecimal
  let isLast := behind.length ≤ second.length + 1
  let (n, m) := (digitsValue 10 front, digitsValue 10 second)
  let isPoint := behind.head?.all (· = ascii '.')
  b.isEmpty || (!front.isEmpty && (n < 4 || (n = 4 && isPoint && (m < 9 || (m = 9 && isLast)))))

/-- The steps of an edit, given how much was left of it behind the start of each block that is
open. -/
def steps (w : Writing) : (fuel : Nat) → (blocks : List Nat) → Reading (List Step)
  | 0, _ => return []
  | fuel + 1, blocks => do
    let isBetween (b : UInt8) : Bool :=
      b = ascii ';' || b = ascii ' ' || (0x09 ≤ b && b ≤ 0x0D)
    modify (·.dropWhile isBetween)
    match ← take? with
    | none =>
      match blocks with
      | [] => return []
      | left :: _ => throw (.about left (.ofText "unmatched \x60\x7b'"))
    | first => do
      let (chosen, after) ← selection w first
      match after with
      | none => refuse "missing command"
      | some letter =>
        if letter = ascii '#' then
          if chosen.first.isSome then refuse "comments don't accept any addresses"
          else
            let _ ← takeWhile (· != newline)
            steps w fuel blocks
        else if w.isPlain && (Bytes.ofText "FQRTvWz").contains letter then unknownStep letter
        else if w.isPlain && (Bytes.ofText "=air").contains letter && chosen.last.isSome then
          refuse "command only uses one address"
        else if letter = ascii 'v' then
          if isKnownVersion (← labelName) then steps w fuel blocks
          else refuse "expected newer version of sed"
        else
          let left := (← get).length
          let a ← action w chosen blocks.length letter
          let blocks := match a with
            | .opening => left :: blocks
            | .closing => blocks.tail
            | _ => blocks
          return ⟨chosen, a⟩ :: (← steps w fuel blocks)

/-- The edit of a text, or what is wrong with it. -/
def ofBytes (w : Writing) (b : Bytes) : Except Fault (List Step) :=
  (steps w (b.length + 1) []).run' b

end BuildDispatch.Host.Edit
