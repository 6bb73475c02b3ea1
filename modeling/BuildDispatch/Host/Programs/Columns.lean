import BuildDispatch.Host.Programs.Basic

/-!
Programs that work across lines: they cut parts out of them, put several next to each other, or
break those that are too long.
-/

namespace BuildDispatch.Host.Programs

/-! ### Parts of lines -/

/-- A range of places from one on; without a last one it goes on to the end. -/
abbrev Span := Nat × Option Nat

/-- What has been read of a list of ranges: those that are complete, and of the next one the first
place, whether a hyphen has come, and the last place. -/
structure SpanReading where
  finished : List Span
  first : Option Nat
  hasHyphen : Bool
  last : Option Nat

/-- Takes in a digit. -/
def SpanReading.digit (s : SpanReading) (d : Nat) : SpanReading :=
  if s.hasHyphen then { s with last := some (s.last.getD 0 * 10 + d) }
  else { s with first := some (s.first.getD 0 * 10 + d) }

/-- Ends a range; `zero` is the complaint about a place zero. -/
def SpanReading.close (zero : Bytes) (s : SpanReading) : Except Bytes SpanReading :=
  let finish (span : Span) : Except Bytes SpanReading :=
    .ok ⟨s.finished ++ [span], none, false, none⟩
  if s.hasHyphen then
    match s.first, s.last with
    | none, none => .error (.ofText "invalid range with no endpoint: -")
    | first, none => finish (first.getD 1, none)
    | first, some n =>
      if n < first.getD 1 then .error (.ofText "invalid decreasing range")
      else finish (first.getD 1, some n)
  else
    match s.first with
    | some (n + 1) => finish (n + 1, some (n + 1))
    | _ => .error zero

/-- The ranges that a list of them spells, or what is wrong with it. -/
def spansFrom (isField : Bool) (s : SpanReading) : Bytes → Except Bytes (List Span)
  | [] => (s.close zero).map SpanReading.finished
  | b :: rest =>
    if b = ascii '-' then
      if s.hasHyphen then
        .error (.ofText
          (if isField then "invalid field range" else "invalid byte or character range"))
      else if s.first = some 0 then .error zero
      else spansFrom isField { s with hasHyphen := true } rest
    else if b = ascii ',' || b = 0x20 || b = 0x09 then do
      spansFrom isField (← s.close zero) rest
    else if isDecimal b then
      let s := s.digit (b.toNat - 48)
      let n := (if s.hasHyphen then s.last else s.first).getD 0
      if 18446744073709551615 < n then
        .error (.ofText (if isField then "field number " else "byte/character offset ")
          ++ inQuotes (.ofText (toString n) ++ rest.takeWhile isDecimal) ++ .ofText " is too large")
      else spansFrom isField s rest
    else
      .error (.ofText
        (if isField then "invalid field value " else "invalid byte/character position ")
          ++ inQuotes (b :: rest))
where
  /-- The complaint about a place zero. -/
  zero : Bytes := .ofText (if isField then "fields are numbered from 1"
    else "byte/character positions are numbered from 1")

/-- The ranges that a list of them spells, from the lowest on, those that overlap as one. -/
def spans (isField : Bool) (b : Bytes) : Except Bytes (List Span) :=
  (spansFrom isField ⟨[], none, false, none⟩ b).map fun l =>
    (l.mergeSort fun a b => a.1 ≤ b.1).foldl merge []
where
  /-- Puts a range behind others, into the last one if it overlaps it. -/
  merge (l : List Span) (span : Span) : List Span :=
    match l.getLast? with
    | some (first, last) =>
      if last.all (span.1 ≤ ·) then
        let last := last.bind fun m => span.2.map fun n => max m n
        l.dropLast ++ [(first, last)]
      else l ++ [span]
    | none => [span]

/-- The places outside ranges, from a place on. -/
def outside : (start : Nat) → List Span → List Span
  | start, [] => [(start, none)]
  | start, (first, last) :: rest =>
    let before : List Span := if start < first then [(start, some (first - 1))] else []
    match last with
    | none => before
    | some n => before ++ outside (n + 1) rest

/-- The part of a list in a range. -/
def within {α : Type} (span : Span) (l : List α) : List α :=
  ((span.2.elim l l.take)).drop (span.1 - 1)

/-- Prints parts of lines: bytes, or fields between separators. -/
def cut : Given → Effect :=
  withOptions ⟨"snz!", "bcfdO", "", [("bytes", 'b'), ("characters", 'c'), ("fields", 'f'),
    ("delimiter", 'd'), ("only-delimited", 's'), ("output-delimiter", 'O'),
    ("zero-terminated", 'z'), ("complement", '!')]⟩ 1 fun g o words =>
    let lists := o.filter fun x => [ascii 'b', ascii 'c', ascii 'f'].contains x.1
    let misused (s : String) : Effect := g.misused 1 (.ofText s)
    let delimiters := o.values 'd'
    match if delimiters.any fun d => 1 < d.length then none else some lists with
    | none => misused "the delimiter must be a single character"
    | some [] => misused "you must specify a list of bytes, characters, or fields"
    | some [(letter, list)] =>
      let isField := letter = ascii 'f'
      if !isField && !delimiters.isEmpty then
        misused "an input delimiter may be specified only when operating on fields"
      else if !isField && o.has 's' then
        misused "suppressing non-delimited lines makes sense\n\tonly when operating on fields"
      else
        match spans isField list with
        | .error complaint => g.misused 1 complaint
        | .ok l =>
          let l := if o.has '!' then outside 1 l else l
          let ending : UInt8 := if o.has 'z' then 0 else 0x0A
          let delimiter := ((delimiters.getLast?.map fun d => d.headD 0)).getD (ascii '\t')
          let joint := match (o.values 'O').getLast? with
            | some [] => [0]
            | some joint => joint
            | none => if isField then [delimiter] else []
          let fieldsOf (fields : List Bytes) : Bytes :=
            joint.intercalate (l.flatMap (within · fields)) ++ [ending]
          let row (b : Bytes) : Bytes :=
            if !isField then
              joint.intercalate ((l.map (within · b)).filter (!·.isEmpty)) ++ [ending]
            else if !b.contains delimiter then if o.has 's' then [] else b ++ [ending]
            else fieldsOf (splitOn delimiter b)
          perText 1 words (fun _ b =>
            let rows := rowsBy ending b
            if isField && delimiter = ending then fieldsOf rows else rows.flatMap row) g
    | _ => misused "only one list may be specified"

/-! ### Lines next to each other -/

/-- The delimiters that a text lists, each of which may be empty. -/
def delimiterList : Bytes → List Bytes
  | [] => []
  | b :: rest =>
    if b = ascii '\\' then
      match rest with
      | [] => [[b]]
      | c :: rest =>
        let named : List (UInt8 × Bytes) := [
          (ascii 'n', [0x0A]), (ascii 't', [0x09]), (ascii '0', []), (ascii '\\', [c])]
        (named.lookup c).getD [c] :: delimiterList rest
    else [b] :: delimiterList rest

/-- Texts with delimiters between them, which are taken in turn. -/
def joinedInTurn (delimiters : List Bytes) (texts : List Bytes) : Bytes :=
  (texts.zipIdx.map fun (text, i) =>
    if i = 0 then text else (delimiters.getD ((i - 1) % delimiters.length) []) ++ text).flatten

/-- The lines of several texts next to each other, as long as one of them has any. -/
def sideBySide (delimiters : List Bytes) (columns : List (List Bytes)) : List Bytes :=
  let height := (columns.map List.length).foldl max 0
  (List.range height).map fun i =>
    joinedInTurn delimiters (columns.map fun column => column.getD i [])

/-- The lines of the input, shared out to the words that stand for it. -/
def sharedLines (count index : Nat) (l : List Bytes) : List Bytes :=
  (l.zipIdx.filter fun x => x.2 % count = index).map (·.1)

/-- Puts lines of several texts next to each other, or all lines of a text behind each other. -/
def paste : Given → Effect :=
  withOptions ⟨"sz", "d", "", [("serial", 's'), ("delimiters", 'd'), ("zero-terminated", 'z')]⟩ 1
    fun g o words =>
    let ending : UInt8 := if o.has 'z' then 0 else 0x0A
    let list := (o.values 'd').getLast?.getD [0x09]
    let delimiters := if list.isEmpty then [[]] else delimiterList list
    let words := if words.isEmpty then [inputWord] else words
    let inputs := words.countP isInput
    let text (word : Bytes) : Except Bytes Bytes := readWord g "" g.files word
    let column (i : Nat) (word : Bytes) : Except Bytes (List Bytes) := do
      let l := rowsBy ending (← text word)
      if isInput word then
        let index := (words.take i).countP isInput
        if o.has 's' then return (if index = 0 then l else [])
        else return sharedLines inputs index l
      else return l
    let columns := words.zipIdx.map fun (word, i) => column i word
    let stdin := g.leftBy words
    if o.has 's' then
      columns.foldl (fun e column =>
        match column with
        | .ok l => { e with stdout := e.stdout ++ joinedInTurn delimiters l ++ [ending] }
        | .error complaint => { e with status := 1, stderr := e.stderr ++ complaint })
        { g.done 0 [] [] with stdin }
    else
      match columns.mapM id with
      | .ok columns =>
        { g.done 0 ((sideBySide delimiters columns).flatMap (· ++ [ending])) [] with stdin }
      | .error complaint => g.done 1 [] complaint

/-! ### Long lines -/

/-- The column behind a byte at a column. -/
def columnAfter (inBytes : Bool) (column : Nat) (b : UInt8) : Nat :=
  if inBytes then column + 1
  else if b = 0x09 then column / 8 * 8 + 8
  else if b = 0x08 then column - 1
  else if b = 0x0D then 0
  else column + 1

/-- The width of a text from the first column on. -/
def widthOf (inBytes : Bool) (b : Bytes) : Nat := b.foldl (columnAfter inBytes) 0

/-- Breaks a line into rows that are no wider than so many columns, perhaps behind blanks; `row` is
the row so far. -/
def foldRow (width : Nat) (inBytes atBlanks : Bool) :
    (fuel : Nat) → (row : Bytes) → Bytes → List Bytes
  | 0, row, rest => [row ++ rest]
  | _, row, [] => [row]
  | fuel + 1, row, b :: rest =>
    if columnAfter inBytes (widthOf inBytes row) b ≤ width || row.isEmpty then
      foldRow width inBytes atBlanks fuel (row ++ [b]) rest
    else
      let isBlank (x : UInt8) : Bool := x = 0x20 || x = 0x09
      let kept := (row.reverse.dropWhile (!isBlank ·)).reverse
      if atBlanks && !kept.isEmpty then
        kept :: foldRow width inBytes atBlanks fuel (row.drop kept.length) (b :: rest)
      else row :: foldRow width inBytes atBlanks fuel [] (b :: rest)

/-- Breaks the lines of its input or of files that are too wide. -/
def foldLines (g : Given) : Effect :=
  let isShort (w : Bytes) : Bool :=
    w.head? = some (ascii '-') && !w.tail.isEmpty && w.tail.all isDecimal
  let args := g.args.map fun w => if isShort w then Bytes.ofText "-w" ++ w.tail else w
  withOptions ⟨"bs", "w", "", [("bytes", 'b'), ("spaces", 's'), ("width", 'w')]⟩ 1
    (fun g o words =>
      let value := (o.values 'w').getLast?.getD (.ofText "80")
      match (natural? value).filter (0 < ·) with
      | none => g.refused 1 (.ofText "invalid number of columns: " ++ inQuotes value)
      | some width =>
        perText 1 words (fun _ b => (lines b).flatMap fun row =>
          let rows := foldRow width (o.has 'b') (o.has 's') (2 * row.length + 2) [] (bare row)
          (line "").intercalate rows ++ row.drop (bare row).length) g)
    { g with args }

end BuildDispatch.Host.Programs
