import BuildDispatch.Host.Format
import BuildDispatch.Host.Programs.Basic

/-!
Programs that print: their words, the environment, their input, and parts of it.
-/

namespace BuildDispatch.Host.Programs

/-- How words are echoed. -/
structure EchoStyle where
  newline : Bool
  /-- The escapes that count, if any do. -/
  escapes : Option EscapeStyle

/-- Changes the style by the letters of an option; other letters make the word an ordinary one. -/
def echoOption? (style : EchoStyle) : Bytes → Option EchoStyle
  | [] => some style
  | b :: r =>
    if b = ascii 'n' then echoOption? { style with newline := false } r
    else if b = ascii 'e' then echoOption? { style with escapes := some programEscapes } r
    else if b = ascii 'E' then echoOption? { style with escapes := none } r
    else none

/-- Takes the options in front of the words to echo. -/
def echoStyle (style : EchoStyle) : List Bytes → EchoStyle × List Bytes
  | [] => (style, [])
  | [] :: r => (style, [] :: r)
  | (b :: letters) :: r =>
    if b = ascii '-' && !letters.isEmpty then
      match echoOption? style letters with
      | some style => echoStyle style r
      | none => (style, (b :: letters) :: r)
    else (style, (b :: letters) :: r)

/-- Words with one space between them, printed in a style. -/
def echoed (style : EchoStyle) (words : List Bytes) : Bytes :=
  let (out, ended) := match style.escapes with
    | some escapes => unescape escapes (spaced words)
    | none => (spaced words, false)
  if style.newline && !ended then out ++ Bytes.ofText "\n" else out

/-- Prints its arguments; escapes count only where an option asks for them.  The standard behaviour
is that they always count, and that there are no options unless the first one is `-n`. -/
def echo (g : Given) : Effect :=
  let plain : EchoStyle := ⟨true, none⟩
  let hasOptions := !g.isStandard || g.args.head? = some (Bytes.ofText "-n")
  let (style, words) := if hasOptions then echoStyle plain g.args else (plain, g.args)
  let style := if g.isStandard then { style with escapes := some programEscapes } else style
  g.done 0 (echoed style words) []

/-- The options in front of the names to print: whether the values end with a NUL byte, and the
names; or an option that means nothing, as a complaint names it. -/
def printenvOptions (nul : Bool) : List Bytes → Except Bytes (Bool × List Bytes)
  | [] => .ok (nul, [])
  | word :: rest =>
    let letters := word.tail
    let isLong := letters.length != 1 && letters.isPrefixOf (Bytes.ofText "-null")
    if word = .ofText "--" then .ok (nul, rest)
    else if word.head? != some (ascii '-') || letters.isEmpty then .ok (nul, word :: rest)
    else if letters.head? = some (ascii '-') then
      if isLong then printenvOptions true rest
      else .error (.ofText "unrecognized option " ++ inPlainQuotes word)
    else
      match letters.find? (· != ascii '0') with
      | some x => .error (.ofText "invalid option -- " ++ inPlainQuotes [x])
      | none => printenvOptions true rest

/-- Prints the values of the named variables, or the whole environment; fails if one is missing. -/
def printenv (g : Given) : Effect :=
  match printenvOptions false g.args with
  | .error complaint => g.misused 2 complaint
  | .ok (nul, names) =>
    let ending : Bytes := if nul then [0] else .ofText "\n"
    if names.isEmpty then
      let shown (e : Bytes × Bytes) : Bytes := e.1 ++ Bytes.ofText "=" ++ e.2 ++ ending
      g.done 0 (g.env.flatMap shown) []
    else
      let values := names.map fun name =>
        if name.contains (ascii '=') then none else g.env.lookup name
      let out := values.flatMap fun v => (v.map (· ++ ending)).getD []
      g.done (if values.all Option.isSome then 0 else 1) out []

/-- A byte as it is shown where it should be visible. -/
def visible (b : UInt8) : Bytes :=
  let basic (x : UInt8) : Bytes :=
    if x < 0x20 then [ascii '^', x + 64] else if x = 0x7F then .ofText "^?" else [x]
  if b = ascii '\n' || b = ascii '\t' then [b]
  else if b < 0x80 then basic b
  else .ofText "M-" ++ basic (b - 0x80)

/-- Prints its input, or files one after the other; lines may be numbered, and their ends and
strange bytes shown. -/
def cat : Given → Effect :=
  withOptions ⟨"AbeEnstTuv", "", "", [("number", 'n'), ("show-all", 'A')]⟩ 1 fun g o words =>
    let shows (letters : String) : Bool := letters.toList.any o.has
    let dressed (row : Bytes) : Bytes :=
      let b := bare row
      let b := if shows "vAet" then b.flatMap visible else b
      let b := if shows "AtT" then
          b.flatMap fun x => if x = ascii '\t' then Bytes.ofText "^I" else [x]
        else b
      if b.length ≤ row.length && bare row = row then b
      else b ++ .ofText (if shows "AeE" then "$\n" else "\n")
    let squeezed (rows : List Bytes) : List Bytes :=
      if o.has 's' then
        ((none :: rows.map some).zip rows).filterMap fun (before, row) =>
          if row = .ofText "\n" && before = some row then none else some row
      else rows
    let numbered (rows : List Bytes) : List Bytes :=
      if o.has 'n' || o.has 'b' then
        (rows.foldl (fun (n, out) row =>
          if o.has 'b' && row = .ofText "\n" then (n, out ++ [row])
          else (n + 1, out ++ [.ofText (padded 6 n ++ "\t") ++ row])) (1, [])).2
      else rows
    wholeText 1 words (fun b =>
      if o.isEmpty then b else (numbered ((squeezed (lines b)).map dressed)).flatten) g

/-- How many words a text has. -/
def wordCount (b : Bytes) : Nat :=
  let isBlank (x : UInt8) : Bool := x = ascii ' ' || (0x09 ≤ x && x ≤ 0x0D)
  ((b.splitBy fun x y => isBlank x == isBlank y).filter fun part => part.any (!isBlank ·)).length

/-- The counts of a text that options ask for: lines, words, characters, bytes, and the length of
the longest line. -/
def countsOf (o : Options) (b : Bytes) : List Nat :=
  let isPlain := !"lwmcL".toList.any o.has
  let longest := ((bareLines b).map List.length).foldl max 0
  (if isPlain || o.has 'l' then [b.count (ascii '\n')] else []) ++
    (if isPlain || o.has 'w' then [wordCount b] else []) ++
    (if o.has 'm' then [b.length] else []) ++
    (if isPlain || o.has 'c' then [b.length] else []) ++
    (if o.has 'L' then [longest] else [])

/-- The width of counts: that of the size of all files together, but not small where something else
than a file is read.  A single count needs none. -/
def countWidth (columns : Nat) (sizes : List (Option Nat)) : Nat :=
  if sizes.length < 2 && columns = 1 then 1
  else
    let total := (sizes.filterMap id).foldl Nat.add 0
    max (if sizes.any Option.isNone then 7 else 1) (toString total).length

/-- Counts lines, words and bytes. -/
def count : Given → Effect :=
  withOptions ⟨"lwcmL", "", "", [("lines", 'l'), ("words", 'w'), ("bytes", 'c'),
    ("chars", 'm'), ("max-line-length", 'L')]⟩ 1 fun g o words =>
  let sources := if words.isEmpty then [inputWord] else words
  let size (w : Bytes) : Option (Option Nat) :=
    if isInput w then some (g.inputFile.map List.length)
    else match g.files.lookup w with
      | .ok (.file b) => some (if g.files.isOwn w then some b.length else none)
      | .ok _ => some none
      | .error _ => none
  let width := countWidth (countsOf o []).length (sources.map fun w => (size w).getD (some 0))
  let row (l : List Nat) (name : Bytes) : Bytes :=
    .ofText (" ".intercalate (l.map (padded width))) ++ name ++ line ""
  let named (word : Bytes) : Bytes := if words.isEmpty then [] else .ofText " " ++ word
  let isLongest (i : Nat) : Bool := o.has 'L' && i + 1 = (countsOf o []).length
  let summed (a b : List Nat) : List Nat :=
    (a.zip b).zipIdx.map fun ((m, n), i) => if isLongest i then max m n else m + n
  let step (state : Effect × List Nat) (word : Bytes) : Effect × List Nat :=
    let (e, total) := state
    let taken (e : Effect) (b : Bytes) : Effect × List Nat :=
      let counts := countsOf o b
      ({ e with stdout := e.stdout ++ row counts (named word) }, summed total counts)
    if isInput word then
      taken { e with stdin := if g.usesUp word then [] else e.stdin } (g.inputUnder word e.stdin)
    else
      let refused (e : Effect) (reason : OsError) : Effect :=
        let complaint := objection g.called "" (shellName word) reason.reason
        { e with status := 1, stderr := e.stderr ++ complaint }
      if word.isEmpty then
        ({ e with
          status := 1
          stderr := e.stderr ++ complaintOf g.called (.ofText "invalid zero-length file name") },
          total)
      else match g.files.lookup word with
      | .ok (.file b) => taken e b
      | .ok .directory => taken (refused e .isADirectory) []
      | .ok (.program _) => taken e []
      | .error reason => (refused e reason, total)
  let (e, total) := sources.foldl step (g.done 0 [] [], (countsOf o []).map fun _ => 0)
  if words.length < 2 then e
  else { e with stdout := e.stdout ++ row total (.ofText " total") }

/-- The last components of paths, without an ending that is given. -/
def lastName : Given → Effect :=
  withFrontOptions ⟨"az", "s", "", [("multiple", 'a'), ("suffix", 's'), ("zero", 'z')]⟩ 1
    fun g o words =>
    let stem (path ending : Bytes) : Bytes :=
      let b := (components path).getLast?.getD (if path.isEmpty then [] else [slash])
      let isProper := ending.length < b.length && ending.isSuffixOf b
      b.take (if isProper then b.length - ending.length else b.length)
    let behind : Bytes := if o.has 'z' then [0] else line ""
    let isMany := o.has 'a' || o.has 's'
    let ending := (o.values 's').getLast?.getD []
    match isMany, words with
    | _, [] => g.misused 1 (.ofText "missing operand")
    | true, words => g.done 0 (words.flatMap fun path => stem path ending ++ behind) []
    | false, [path] => g.done 0 (stem path [] ++ behind) []
    | false, [path, ending] => g.done 0 (stem path ending ++ behind) []
    | false, _ :: _ :: extra :: _ =>
      g.misused 1 (.ofText "extra operand " ++ inQuotes extra)

/-- Paths without their last components. -/
def directoryName : Given → Effect :=
  withOptions ⟨"z", "", "", [("zero", 'z')]⟩ 1 fun g o words =>
    let isSlash (b : UInt8) : Bool := b = slash
    let parent (path : Bytes) : Bytes :=
      let front := ((path.reverse.dropWhile isSlash).dropWhile (!isSlash ·)).dropWhile isSlash
      if !front.isEmpty then front.reverse
      else if path.head? = some slash then [slash] else .ofText "."
    let behind : Bytes := if o.has 'z' then [0] else line ""
    if words.isEmpty then g.misused 1 (.ofText "missing operand")
    else g.done 0 (words.flatMap fun path => parent path ++ behind) []

/-! ### Progressions -/

/-- A decimal number: the digits as a whole number, and how many of them stand behind the point. -/
structure DecimalNumber where
  digits : Int
  places : Nat
  deriving Repr, DecidableEq

namespace DecimalNumber

/-- The number that a word spells. -/
def ofBytes? (b : Bytes) : Option DecimalNumber :=
  let isNegative := b.head? = some (ascii '-')
  let b := if isNegative || b.head? = some (ascii '+') then b.tail else b
  let whole := b.takeWhile isDecimal
  let rest := b.drop whole.length
  let hasPoint := rest.head? = some (ascii '.')
  let fraction := if hasPoint then rest.tail.takeWhile isDecimal else []
  let rest := if hasPoint then rest.tail.drop fraction.length else rest
  let exponent? : Option Int :=
    match rest with
    | [] => some 0
    | e :: r => if e = ascii 'e' || e = ascii 'E' then integer? r else none
  if whole.isEmpty && fraction.isEmpty then none
  else
    exponent?.map fun exponent =>
      let n : Int := digitsValue 10 (whole ++ fraction)
      let n := if isNegative then -n else n
      let places : Int := fraction.length - exponent
      ⟨n * (Nat.pow 10 (-places).toNat : Nat), places.toNat⟩

/-- The digits with so many places behind the point. -/
def scaled (n : DecimalNumber) (places : Nat) : Int :=
  n.digits * (Nat.pow 10 (places - n.places) : Nat)

/-- The text of a number. -/
def text (n : DecimalNumber) : String :=
  let digits := toString n.digits.natAbs
  let filled := String.ofList (List.replicate (n.places + 1 - digits.length) '0') ++ digits
  let whole := filled.toList.take (filled.length - n.places)
  let fraction := filled.toList.drop (filled.length - n.places)
  (if n.digits < 0 then "-" else "") ++ String.ofList whole
    ++ if n.places = 0 then "" else "." ++ String.ofList fraction

end DecimalNumber

/-- Numbers from the first on, by steps, as long as they do not pass the last. -/
def progression (step last : Int) : (fuel : Nat) → Int → List Int
  | 0, _ => []
  | fuel + 1, n =>
    if (0 ≤ step && last < n) || (step < 0 && n < last) then []
    else n :: progression step last fuel (n + step)

/-- The numbers from the first to the last by steps, with as many places as the first and the step
have. -/
def decimalProgression (first step last : DecimalNumber) : List DecimalNumber :=
  let shown := max first.places step.places
  let places := max shown last.places
  let (a, d, z) := (first.scaled places, step.scaled places, last.scaled places)
  let numbers := progression d z ((z - a).natAbs / max 1 d.natAbs + 2) a
  numbers.map fun n => ⟨n.tdiv (Nat.pow 10 (places - shown) : Nat), shown⟩

/-- A text filled up with zeros behind its sign. -/
def zeroFilled (width : Nat) (s : String) : String :=
  let sign := s.toList.takeWhile (· == '-')
  String.ofList (sign ++ List.replicate (width - s.length) '0' ++ s.toList.drop sign.length)

/-- The width of a number as a word spells it, with so many places behind the point. -/
def spelledWidth (places : Nat) (n : DecimalNumber) (word : Bytes) : Nat :=
  let word := if word.head? = some (ascii '+') then word.tail else word
  let digits := if word.head? = some (ascii '-') then word.tail else word
  let whole := (digits.takeWhile isDecimal).length
  let hasExponent := word.any fun b => b = ascii 'e' || b = ascii 'E'
  if hasExponent then n.text.length
  else (word.length - digits.length) + max 1 whole + (if places = 0 then 0 else places + 1)

/-- Prints numbers up to the last one, from one on or from the first. -/
def countUp (g : Given) : Effect :=
  let names : OptionNames := ⟨"w", "sf", "", [("separator", 's'), ("equal-width", 'w'),
    ("format", 'f')]⟩
  let isNumber (w : Bytes) : Bool := (DecimalNumber.ofBytes? w).isSome
  let front := g.args.takeWhile fun w => !isNumber w || w.head? != some (ascii '-')
  match names.readFront (front.length + 1) front with
  | .error complaint => g.misused 1 complaint
  | .ok (o, others) =>
    let words := others ++ g.args.drop front.length
    let numbers := words.map DecimalNumber.ofBytes?
    let separator := (o.values 's').getLast?.getD (line "")
    let format := (o.values 'f').getLast?
    let one : DecimalNumber := ⟨1, 0⟩
    let rows (first step last : DecimalNumber) : Effect :=
      let texts := (decimalProgression first step last).map DecimalNumber.text
      let places := max first.places step.places
      let widthOf (n : DecimalNumber) (word : Bytes) : Nat := spelledWidth places n word
      let ends := [(first, if numbers.length = 1 then .ofText "1" else words.headD []),
        (last, words.getLast?.getD [])]
      let width := (ends.map fun (n, word) => widthOf n word).foldl max 0
      let shown (s : String) : Bytes :=
        match format with
        | some f => (Format.print Format.ofShell f [.ofText s]).1.out
        | none => .ofText (if o.has 'w' then zeroFilled width s else s)
      g.done 0 (if texts.isEmpty then [] else separator.intercalate (texts.map shown) ++ line "") []
    match if words.length ≤ 3 then words.find? (!isNumber ·) else none, numbers with
    | some w, _ =>
      g.misused 1 (.ofText "invalid floating point argument: " ++ inQuotes w)
    | none, [some last] => rows one one last
    | none, [some first, some last] => rows first one last
    | none, [some first, some step, some last] =>
      if step.digits = 0 then
        g.misused 1 (.ofText "invalid Zero increment value: " ++ inQuotes (words.getD 1 []))
      else rows first step last
    | none, [] => g.misused 1 (.ofText "missing operand")
    | none, _ => g.misused 1 (.ofText "extra operand " ++ inQuotes (words.getD 3 []))

end BuildDispatch.Host.Programs
