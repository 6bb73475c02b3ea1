import BuildDispatch.Host.Programs.Basic

/-!
Programs that work on the lines of a text: they take some of them, number them, or turn them round.
-/

namespace BuildDispatch.Host.Programs

/-! ### Parts of a text -/

/-- How much of a text is wanted: so many lines or bytes; with a sign, all but so many at the other
end. -/
structure Amount where
  inBytes : Bool
  isSigned : Bool
  count : Nat
  deriving Repr, DecidableEq

/-- The factors that letters behind a number stand for. -/
def factors : List (String × Nat) := [
  ("", 1), ("b", 512), ("kB", 1000), ("k", 1024), ("K", 1024), ("KiB", 1024), ("MB", 1000000),
  ("M", 1048576), ("MiB", 1048576), ("GB", 1000000000), ("G", 1073741824), ("GiB", 1073741824)]

/-- The number that digits with letters behind them spell. -/
def scaled? (b : Bytes) : Option Nat :=
  let digits := b.takeWhile isDecimal
  if digits.isEmpty then none
  else
    (factors.find? fun f => Bytes.ofText f.1 = b.drop digits.length).map fun f =>
      digitsValue 10 digits * f.2

/-- The amount that an option gives; the sign is a hyphen or a plus sign. -/
def amount? (sign : Char) (inBytes : Bool) (b : Bytes) : Option Amount :=
  let isSigned := b.head? = some (ascii sign)
  let isMarked := b.head? = some (ascii '-') || b.head? = some (ascii '+')
  (scaled? (if isMarked then b.tail else b)).map (⟨inBytes, isSigned, ·⟩)

/-- The amount that options ask for, or what is wrong with it. -/
def amountOf (sign : Char) (o : Options) : Except Bytes Amount :=
  match (o.filter fun x => x.1 = ascii 'n' || x.1 = ascii 'c').getLast? with
  | none => .ok ⟨false, false, 10⟩
  | some (letter, value) =>
    match amount? sign (letter = ascii 'c') value with
    | some a => .ok a
    | none =>
      let unit := if letter = ascii 'c' then "bytes" else "lines"
      let shown := if value.head? = some (ascii '-') then value.tail else value
      .error (.ofText ("invalid number of " ++ unit ++ ": ") ++ inQuotes shown)

/-- Prints a part of its input or of files; of several files with their names over them.  What
follows the part may be left to be read where the input comes from a file.  Options that are
`digits` are known, but have no meaning. -/
def part (digits : String) (sign : Char) (keepsRest : Bool) (cut : Amount → Bytes → Bytes) :
    Given → Effect :=
  withOptions ⟨"qv" ++ digits, "nc", "", [("lines", 'n'), ("bytes", 'c'), ("quiet", 'q'),
    ("silent", 'q'), ("verbose", 'v')]⟩ 1 fun g o words =>
    match o.find? (isDecimal ·.1), amountOf sign o with
    | some (digit, _), _ =>
      g.refused 1 (.ofText "option used in invalid context -- " ++ [digit])
    | none, .error complaint => g.refused 1 complaint
    | none, .ok amount =>
      let words := if words.isEmpty then [inputWord] else words
      let hasTitles := (1 < words.length || o.has 'v') && !o.has 'q'
      let shown (w : Bytes) : Bytes := if w = inputWord then .ofText "standard input" else w
      let title (isFirst : Bool) (word : Bytes) : Bytes :=
        if hasTitles then
          .ofText (if isFirst then "==> " else "\n==> ") ++ shown word ++ line " <=="
        else []
      let step (e : Effect) (word : Bytes) : Effect :=
        let now := { g with stdin := e.stdin }
        let found : Except OsError Found :=
          if isInput word then .ok (.file (g.inputUnder word e.stdin)) else g.files.lookup word
        let titled := { e with stdout := e.stdout ++ title e.stdout.isEmpty word }
        match found with
        | .ok (.file b) =>
          let taken := cut amount b
          let isLeft := keepsRest && g.inputFile.isSome && g.usesUp word
          { titled with
            stdout := titled.stdout ++ taken
            stdin := if isLeft then b.drop taken.length else now.leftBy [word] }
        | .ok (.program _) => titled
        | .ok .directory =>
          let word := .ofText "error reading " ++ inShellQuotes word
          { titled with
            status := 1, stderr := e.stderr ++ objection g.called "" word "Is a directory" }
        | .error reason =>
          let word := inShellQuotes word ++ .ofText " for reading"
          { e with
            status := 1
            stderr := e.stderr ++ objection g.called "cannot open " word reason.reason }
      words.foldl step (g.done 0 [] [])

/-- The options that a number stands for which is given like an option: so many lines, or bytes with
the letter `c` behind it. -/
def shortAmount? (marks : String) (w : Bytes) : Option (List Bytes) :=
  match w with
  | [] => none
  | mark :: rest =>
    let digits := rest.takeWhile isDecimal
    let sign : Bytes := if mark = ascii '+' then [mark] else []
    if !(Bytes.ofText marks).contains mark || digits.isEmpty then none
    else
      let letter := rest.drop digits.length
      if letter.isEmpty || letter = Bytes.ofText "l" then some [Bytes.ofText "-n" ++ sign ++ digits]
      else if letter = Bytes.ofText "c" then some [Bytes.ofText "-c" ++ sign ++ digits]
      else none

/-- Prints the front of its input or of files. -/
def head (g : Given) : Effect :=
  let args := match g.args with
    | [] => []
    | w :: rest => ((shortAmount? "-" w).getD [w]) ++ rest
  part "" '-' true (fun a b =>
    if a.inBytes then b.take (if a.isSigned then b.length - a.count else a.count)
    else
      let l := lines b
      (l.take (if a.isSigned then l.length - a.count else a.count)).flatten) { g with args }

/-- Prints the end of its input or of files. -/
def tail (g : Given) : Effect :=
  let isOption (w : Bytes) : Bool := w.head? = some (ascii '-') && 1 < w.length
  let short := match g.args with
    | [w] => shortAmount? "-+" w
    | [w, file] => if isOption file then none else (shortAmount? "-+" w).map (· ++ [file])
    | _ => none
  part "0123456789" '+' false (fun a b =>
    if a.inBytes then b.drop (if a.isSigned then a.count - 1 else b.length - a.count)
    else
      let l := lines b
      (l.drop (if a.isSigned then a.count - 1 else l.length - a.count)).flatten)
    { g with args := short.getD g.args }

/-! ### Equal lines -/

/-- Runs of lines that are equal in some way. -/
def runs (same : Bytes → Bytes → Bool) : List Bytes → List (List Bytes)
  | [] => []
  | row :: rest =>
    match runs same rest with
    | (next :: others) :: more =>
      if same row next then (row :: next :: others) :: more else [row] :: (next :: others) :: more
    | more => [row] :: more

/-- The part of a line that counts: behind so many fields and characters, and so many characters. -/
def comparedPart (fields characters : Nat) (width : Option Nat) (row : Bytes) : Bytes :=
  let isBlank (b : UInt8) : Bool := b = 0x20 || b = 0x09
  let skip (b : Bytes) : Bytes := (b.dropWhile isBlank).dropWhile (!isBlank ·)
  let b := (Nat.repeat skip fields row).drop characters
  width.elim b b.take

/-- Prints one of several equal lines that follow each other. -/
def unique : Given → Effect :=
  withOptions ⟨"cduDiz", "fsw", "", [("count", 'c'), ("repeated", 'd'), ("unique", 'u'),
    ("ignore-case", 'i'), ("skip-fields", 'f'), ("skip-chars", 's'), ("check-chars", 'w'),
    ("zero-terminated", 'z')]⟩ 1 fun g o words =>
    let numbers : List (Char × String) := [('f', "invalid number of fields to skip"),
      ('s', "invalid number of bytes to skip"), ('w', "invalid number of bytes to compare")]
    let wrong := numbers.findSome? fun (letter, what) =>
      ((o.values letter).find? fun w => (natural? w).isNone).map fun w =>
        complaintOf g.called (w ++ .ofText (": " ++ what))
    let number (letter : Char) : Option Nat := (o.values letter).getLast?.bind natural?
    let ending : UInt8 := if o.has 'z' then 0 else 0x0A
    let key (row : Bytes) : Bytes :=
      let b := comparedPart ((number 'f').getD 0) ((number 's').getD 0) (number 'w') row
      if o.has 'i' then b.map fun x => if ascii 'A' ≤ x && x ≤ ascii 'Z' then x + 32 else x else b
    let shown (run : List Bytes) : Bytes :=
      let n := run.length
      let count := if o.has 'c' then Bytes.ofText (padded 7 n ++ " ") else []
      let isWanted := (!(o.has 'd' || o.has 'D') || 1 < n) && (!o.has 'u' || n = 1)
      if !isWanted then []
      else if o.has 'D' then run.flatMap (· ++ [ending])
      else count ++ run.headD [] ++ [ending]
    let text : Except Bytes Bytes :=
      match words.headD inputWord with
      | word =>
        match readWord g "" g.files word, g.files.lookup word with
        | .error _, .ok .directory =>
          .error (objection g.called "error reading " (inShellQuotes word) "Is a directory")
        | read, _ => read
    let stdin := g.leftBy [words.headD inputWord]
    match wrong, words.drop 2, text with
    | some complaint, _, _ => g.done 1 [] complaint
    | none, extra :: _, _ => g.misused 1 (.ofText "extra operand " ++ inQuotes extra)
    | none, [], .error complaint => g.done 1 [] complaint
    | none, [], .ok b =>
      let out := (runs (fun x y => key x = key y) (rowsBy ending b)).flatMap shown
      match words[1]? with
      | none => { g.done 0 out [] with stdin }
      | some path =>
        if path = inputWord then { g.done 0 out [] with stdin }
        else match g.files.placeToWrite path with
          | .ok place => { g.done 0 [] [] with stdin, files := g.files.write out place }
          | .error e => g.done 1 [] (objection g.called "" (shellName path) e.reason)

/-! ### Other orders and numbers -/

/-- Prints something for each text, with other words against one that is missing, which are said
under another name.  `opened` is where the text of a word is, and `shown` is how the word is
written. -/
def perTextSaying (called : Bytes) (what atDirectory : String) (opened shown : Bytes → Bytes)
    (words : List Bytes) (act : Bytes → Bytes) (g : Given) : Effect :=
  let read (g : Given) (word : Bytes) : Except Bytes Bytes :=
    (contentOf g g.files (opened word)).mapError fun e =>
      if e = .isADirectory then objection called "" (shellName word) atDirectory
      else objection called what (shown word) e.reason
  eachText 1 words read (fun _ b => act b) g

/-- Prints the lines of its input or of files, the last one first.  A file that the input comes
from is read from its end, as often as it is named. -/
def reverseLines : Given → Effect := withOptions ⟨"", "", "", []⟩ 1 fun g _ words =>
  let words := if words.isEmpty then [inputWord] else words
  let opened (w : Bytes) : Bytes :=
    if w = inputWord && g.inputFile.isSome then .ofText "/dev/stdin" else w
  let shown (w : Bytes) : Bytes := inShellQuotes w ++ .ofText " for reading"
  perTextSaying g.called "failed to open " "read error: Invalid argument" opened shown words
    (fun b => (lines b).reverse.flatten) g

/-- Prints lines with their bytes in reverse.  A hyphen names a file like any other word. -/
def reverseBytes (g : Given) : Effect :=
  let name := (components g.called).getLast?.getD g.called
  let names : OptionNames := ⟨"", "", "", []⟩
  match names.among g g.args with
  | .error complaint =>
    g.done 1 [] (complaintOf g.called complaint ++ hint name ++ .ofText "\n")
  | .ok (_, words) =>
    let opened (w : Bytes) : Bytes :=
      if w = inputWord && !words.isEmpty then .ofText "./-" else w
    let rest := if words.isEmpty then [inputWord] else words
    perTextSaying name "cannot open " "Is a directory" opened id rest (fun b =>
      (lines b).flatMap fun row => (bare row).reverse ++ row.drop (bare row).length) g

/-- How lines are numbered. -/
structure Numbering where
  first : Int
  step : Int
  width : Nat
  separator : Bytes
  /-- Whether numbers stand at the left of their place. -/
  isLeft : Bool
  /-- Whether zeros fill their place. -/
  isFilled : Bool

/-- A number in its place. -/
def Numbering.shown (n : Numbering) (i : Int) : Bytes :=
  let digits := toString i
  let fill (c : Char) : String := String.ofList (List.replicate (n.width - digits.length) c)
  .ofText <| if n.isLeft then digits ++ fill ' '
    else if n.isFilled then
      (if i < 0 then "-" else "") ++ fill '0' ++ toString i.natAbs
    else fill ' ' ++ digits

/-- Prints lines with their numbers; empty lines have none unless an option says so. -/
def numberLines : Given → Effect := withOptions ⟨"p", "bvwsnildhf", "", [
    ("body-numbering", 'b'), ("starting-line-number", 'v'), ("number-width", 'w'),
    ("number-separator", 's'), ("number-format", 'n'), ("line-increment", 'i')]⟩ 1 fun g o words =>
  let last (letter : Char) : Option Bytes := (o.values letter).getLast?
  let integer (letter : Char) (ifNone : Int) : Int := ((last letter).bind integer?).getD ifNone
  let style : Bytes := ((last 'b').getD (Bytes.ofText "t")).take 1
  let format := (last 'n').getD (.ofText "rn")
  let numbering : Numbering := ⟨integer 'v' 1, integer 'i' 1, (integer 'w' 6).toNat,
    (last 's').getD [0x09], format = .ofText "ln", format = .ofText "rz"⟩
  let isNumbered (row : Bytes) : Bool :=
    style = .ofText "a" || (style = .ofText "t" && !row.isEmpty)
  let blank := List.replicate (numbering.width + numbering.separator.length) 0x20
  if !([Bytes.ofText "a", Bytes.ofText "t", Bytes.ofText "n"].contains style) then
    g.misused 1 (.ofText "invalid body numbering style: " ++ inQuotes ((last 'b').getD []))
  else if !([Bytes.ofText "ln", Bytes.ofText "rn", Bytes.ofText "rz"].contains format) then
    g.misused 1 (.ofText "invalid line numbering format: " ++ inQuotes format)
  else wholeText 1 words (fun b =>
    ((bareLines b).foldl (fun (n, out) row =>
      if isNumbered row then
        (n + numbering.step, out ++ [numbering.shown n ++ numbering.separator ++ row ++ [0x0A]])
      else (n, out ++ [blank ++ row ++ [0x0A]])) (numbering.first, ([] : List Bytes))).2.flatten) g

end BuildDispatch.Host.Programs
