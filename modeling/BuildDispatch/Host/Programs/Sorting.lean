import BuildDispatch.Host.Programs.Basic

/-!
Putting lines in order: what of a line is compared, the ways to compare, and the order that comes of
several of them.
-/

namespace BuildDispatch.Host.Programs

/-- Compares texts byte by byte. -/
def compareBytes : Bytes → Bytes → Ordering
  | [], [] => .eq
  | [], _ => .lt
  | _, [] => .gt
  | a :: l, b :: m => (compare a.toNat b.toNat).then (compareBytes l m)

/-- A blank within a line. -/
def isBlank (b : UInt8) : Bool := b = ascii ' ' || b = ascii '\t'

/-! ### Numbers -/

/-- A number at the front of a text: whether it is negative, the digits before the point without
zeros at their front, those behind it without zeros at their end, and what follows. -/
structure LeadingNumber where
  isNegative : Bool
  whole : Bytes
  fraction : Bytes
  rest : Bytes

/-- The number at the front of a text behind blanks. -/
def leadingNumber (b : Bytes) : LeadingNumber :=
  let isZero (x : UInt8) : Bool := x = ascii '0'
  let b := b.dropWhile isBlank
  let isNegative := b.head? = some (ascii '-')
  let b := if isNegative then b.tail else b
  let whole := b.takeWhile isDecimal
  let rest := b.drop whole.length
  let fraction := if rest.head? = some (ascii '.') then rest.tail.takeWhile isDecimal else []
  let rest := if rest.head? = some (ascii '.') then rest.tail.drop fraction.length else rest
  ⟨isNegative, whole.dropWhile isZero, (fraction.reverse.dropWhile isZero).reverse, rest⟩

/-- Whether a number is zero. -/
def LeadingNumber.isZero (n : LeadingNumber) : Bool := n.whole.isEmpty && n.fraction.isEmpty

/-- Compares numbers. -/
def LeadingNumber.compare (m n : LeadingNumber) : Ordering :=
  let size := (Ord.compare m.whole.length n.whole.length).then
    ((compareBytes m.whole n.whole).then (compareBytes m.fraction n.fraction))
  match m.isNegative && !m.isZero, n.isNegative && !n.isZero with
  | false, false => size
  | true, true => size.swap
  | true, false => .lt
  | false, true => .gt

/-- The rank of the unit behind a number, negative for a negative one; zero has none. -/
def LeadingNumber.unit (n : LeadingNumber) : Int :=
  let units : Bytes := .ofText "KMGTPEZYRQ"
  let letter := (n.rest.head?.map fun b => if b = ascii 'k' then ascii 'K' else b)
  let rank : Nat := (letter.bind fun b => (units.findIdx? (· = b)).map (· + 1)).getD 0
  if n.isZero then 0 else if n.isNegative then -rank else rank

/-- The number at the front of a text, perhaps with an exponent, as digits with a power of ten. -/
def scientific? (b : Bytes) : Option (Int × Int) :=
  let b := b.dropWhile isBlank
  let sign := b.head?
  let b := if sign = some (ascii '-') || sign = some (ascii '+') then b.tail else b
  let whole := b.takeWhile isDecimal
  let rest := b.drop whole.length
  let fraction := if rest.head? = some (ascii '.') then rest.tail.takeWhile isDecimal else []
  let rest := if rest.head? = some (ascii '.') then rest.tail.drop fraction.length else rest
  let exponent : Int :=
    if rest.head? = some (ascii 'e') || rest.head? = some (ascii 'E') then
      let r := rest.tail
      let isDown := r.head? = some (ascii '-')
      let digits := (if isDown || r.head? = some (ascii '+') then r.tail else r).takeWhile isDecimal
      if isDown then -(digitsValue 10 digits : Int) else digitsValue 10 digits
    else 0
  if whole.isEmpty && fraction.isEmpty then none
  else
    let n : Int := digitsValue 10 (whole ++ fraction)
    some (if sign = some (ascii '-') then -n else n, exponent - fraction.length)

/-- Compares texts by the numbers at their fronts; one without a number comes first. -/
def compareScientific (a b : Bytes) : Ordering :=
  match scientific? a, scientific? b with
  | none, none => .eq
  | none, some _ => .lt
  | some _, none => .gt
  | some (m, p), some (n, q) =>
    let low := min p q
    let scaled (m p : Int) : Int := m * (Nat.pow 10 (p - low).toNat : Nat)
    compare (scaled m p) (scaled n q)

/-- The number of the month that a text begins with, or zero. -/
def monthNumber (b : Bytes) : Nat :=
  let months := ["JAN", "FEB", "MAR", "APR", "MAY", "JUN", "JUL", "AUG", "SEP", "OCT", "NOV", "DEC"]
  let upper (x : UInt8) : UInt8 := if ascii 'a' ≤ x && x ≤ ascii 'z' then x - 32 else x
  let front := ((b.dropWhile isBlank).take 3).map upper
  ((months.findIdx? fun m => Bytes.ofText m = front).map (· + 1)).getD 0

/-! ### Versions -/

/-- A letter of the alphabet. -/
def isLetter (b : UInt8) : Bool :=
  (ascii 'a' ≤ b && b ≤ ascii 'z') || (ascii 'A' ≤ b && b ≤ ascii 'Z')

/-- The rank of a byte between the numbers of a version: a tilde before the end, the end before all
else, letters before other signs. -/
def versionRank : Option UInt8 → Int
  | none => -1
  | some b =>
    if isDecimal b then 0
    else if isLetter b then b.toNat
    else if b = ascii '~' then -2
    else b.toNat + 256

/-- Compares versions: by signs and by numbers in turn. -/
def compareVersions : (fuel : Nat) → Bytes → Bytes → Ordering
  | 0, _, _ => .eq
  | _, [], [] => .eq
  | fuel + 1, a, b =>
    let isSign (x : Option UInt8) : Bool := x.any fun x => !isDecimal x
    if isSign a.head? || isSign b.head? then
      (compare (versionRank a.head?) (versionRank b.head?)).then
        (compareVersions fuel a.tail b.tail)
    else
      let isZero (x : UInt8) : Bool := x = ascii '0'
      let m := (a.takeWhile isDecimal).dropWhile isZero
      let n := (b.takeWhile isDecimal).dropWhile isZero
      ((compare m.length n.length).then (compareBytes m n)).then
        (compareVersions fuel (a.dropWhile isDecimal) (b.dropWhile isDecimal))

/-- How long a name is without the endings behind it: each a dot, a letter or tilde, and more
letters, digits or tildes. -/
def stemLength (b : Bytes) : Nat :=
  let parts := splitOn (ascii '.') b
  let isStart (x : UInt8) : Bool := isLetter x || x = ascii '~'
  let isEnding (part : Bytes) : Bool :=
    part.head?.any isStart && part.all fun x => isStart x || isDecimal x
  let endings := ((parts.drop 1).reverse.takeWhile isEnding)
  b.length - (endings.map fun e => e.length + 1).foldl Nat.add 0

/-- Compares names that hold versions; endings count only if all else is equal. -/
def compareNames (a b : Bytes) : Ordering :=
  let rank (x : Bytes) : Nat :=
    if x.isEmpty then 0 else if x = .ofText "." then 1 else if x = .ofText ".." then 2
    else if x.head? = some (ascii '.') then 3 else 4
  let fuel := a.length + b.length + 1
  (compare (rank a) (rank b)).then
    ((compareVersions fuel (a.take (stemLength a)) (b.take (stemLength b))).then
      (compareVersions fuel a b))

/-! ### Keys -/

/-- A place in a line: a field, and a character within it. -/
structure FieldPlace where
  field : Nat
  character : Nat
  skipsBlanks : Bool

/-- What is compared of lines, and how: the letters say it as the options do. -/
structure SortKey where
  first : FieldPlace
  last : Option FieldPlace
  letters : List Char

/-- The length of the front of a text that so many fields take up, with the separator behind each
but perhaps the last. -/
def fieldsLength (separator : Option UInt8) (withLast : Bool) : (count : Nat) → Bytes → Nat
  | 0, _ => 0
  | count + 1, b =>
    match separator with
    | some s =>
      let n := (b.takeWhile (· != s)).length
      let n := if n < b.length && (0 < count || withLast) then n + 1 else n
      n + fieldsLength separator withLast count (b.drop n)
    | none =>
      let blanks := (b.takeWhile isBlank).length
      let n := blanks + ((b.drop blanks).takeWhile (!isBlank ·)).length
      n + fieldsLength separator withLast count (b.drop n)

/-- Where the part of a line that a key is about begins and ends. -/
def SortKey.range (k : SortKey) (separator : Option UInt8) (row : Bytes) : Nat × Nat :=
  let blanksAt (n : Nat) : Nat := ((row.drop n).takeWhile isBlank).length
  let start := fieldsLength separator true (k.first.field - 1) row
  let start := start + if k.first.skipsBlanks then blanksAt start else 0
  let start := min row.length (start + (k.first.character - 1))
  match k.last with
  | none => (start, row.length)
  | some p =>
    if p.character = 0 then (start, fieldsLength separator false p.field row)
    else
      let place := fieldsLength separator true (p.field - 1) row
      let place := place + if p.skipsBlanks then blanksAt place else 0
      (start, min row.length (place + p.character))

/-- Compares lines by a key. -/
def SortKey.compare (k : SortKey) (separator : Option UInt8) (a b : Bytes) : Ordering :=
  let has (c : Char) : Bool := k.letters.contains c
  let part (row : Bytes) : Bytes :=
    let (start, stop) := k.range separator row
    (row.take stop).drop start
  let (a, b) := (part a, part b)
  let upper (x : UInt8) : UInt8 := if ascii 'a' ≤ x && x ≤ ascii 'z' then x - 32 else x
  let isPrinted (x : UInt8) : Bool := 0x20 ≤ x && x < 0x7F
  let isWordly (x : UInt8) : Bool := isBlank x || isLetter x || isDecimal x
  let shaped (row : Bytes) : Bytes :=
    let row :=
      if has 'd' then row.filter isWordly else if has 'i' then row.filter isPrinted else row
    if has 'f' then row.map upper else row
  let order :=
    if has 'n' then (leadingNumber a).compare (leadingNumber b)
    else if has 'g' then compareScientific a b
    else if has 'h' then
      (Ord.compare (leadingNumber a).unit (leadingNumber b).unit).then
        ((leadingNumber a).compare (leadingNumber b))
    else if has 'M' then Ord.compare (monthNumber a) (monthNumber b)
    else if has 'V' then compareNames (shaped a) (shaped b)
    else compareBytes (shaped a) (shaped b)
  if has 'r' then order.swap else order

/-- The letters that say how lines are compared. -/
def orderLetters : String := "bdfghiMnrV"

/-- A count at the front of a key. -/
def keyCount (b : Bytes) (what : String) (whole : Bytes) : Except Bytes (Nat × Bytes) :=
  let digits := b.takeWhile isDecimal
  if digits.isEmpty then
    .error (.ofText (what ++ ": invalid count at start of ") ++ inQuotes whole)
  else .ok (digitsValue 10 digits, b.drop digits.length)

/-- A place at the front of a key: a field, a character behind a point, and letters. -/
def keyPlace (isFirst : Bool) (b whole : Bytes) :
    Except Bytes (FieldPlace × List Char × Bytes) := do
  let invalid (what : String) : Bytes :=
    .ofText (what ++ ": invalid field specification ") ++ inQuotes whole
  let what := if isFirst then "invalid number at field start" else "invalid number after ','"
  let (field, rest) ← keyCount b what b
  if field = 0 then throw (invalid "field number is zero")
  let (character, rest) ←
    if rest.head? = some (ascii '.') then keyCount rest.tail "invalid number after '.'" rest.tail
    else pure (if isFirst then 1 else 0, rest)
  if isFirst && character = 0 then throw (invalid "character offset is zero")
  let own := rest.takeWhile (Bytes.ofText orderLetters).contains
  let letters := own.map fun x => Char.ofNat x.toNat
  return (⟨field, character, letters.contains 'b'⟩, letters, rest.drop own.length)

/-- The key that a text describes; without letters of its own it takes over those for all lines. -/
def SortKey.ofBytes (global : List Char) (b : Bytes) : Except Bytes SortKey := do
  let (first, letters, rest) ← keyPlace true b b
  let (last, more, rest) ←
    if rest.head? = some (ascii ',') then do
      let (last, more, rest) ← keyPlace false rest.tail b
      pure (some last, more, rest)
    else pure (none, [], rest)
  if !rest.isEmpty then
    throw (.ofText "stray character in field spec: invalid field specification " ++ inQuotes b)
  let letters := letters ++ more
  if letters.isEmpty then
    let skips := global.contains 'b'
    return ⟨{ first with skipsBlanks := skips }, last.map ({ · with skipsBlanks := skips }), global⟩
  else return ⟨first, last, letters⟩

/-! ### The program -/

/-- The order of lines. -/
structure LineOrder where
  keys : List SortKey
  separator : Option UInt8
  /-- Whether lines that are equal by their keys are not compared any further. -/
  isFinal : Bool
  isReversed : Bool

/-- Compares lines by their keys. -/
def LineOrder.byKeys (l : LineOrder) (a b : Bytes) : Ordering :=
  l.keys.foldl (fun order k => order.then (k.compare l.separator a b)) .eq

/-- Compares lines by their keys, and then by their bytes. -/
def LineOrder.compare (l : LineOrder) (a b : Bytes) : Ordering :=
  (l.byKeys a b).then <|
    if l.isFinal then .eq
    else if l.isReversed then compareBytes b a else compareBytes a b

/-- Lines each of which differs from the one before by its keys. -/
def LineOrder.distinct (l : LineOrder) (rows : List Bytes) : List Bytes :=
  ((none :: rows.map some).zip rows).filterMap fun (before, row) =>
    if before.any fun b => l.byKeys b row = .eq then none else some row

/-- The first line that is out of order, with its number; `strict` asks for a difference. -/
def LineOrder.disorder? (l : LineOrder) (strict : Bool) (rows : List Bytes) :
    Option (Nat × Bytes) :=
  let pairs := rows.zip (rows.drop 1)
  let isWrong (p : Bytes × Bytes) : Bool :=
    match l.compare p.1 p.2 with
    | .gt => true
    | .eq => strict
    | .lt => false
  (pairs.findIdx? isWrong).map fun i => (i + 2, rows.getD (i + 1) [])

/-- Merges lists that are in order. -/
def LineOrder.merge (l : LineOrder) : (fuel : Nat) → List (List Bytes) → List Bytes
  | 0, _ => []
  | fuel + 1, lists =>
    let heads := lists.zipIdx.filterMap fun (list, i) => list.head?.map (·, i)
    match heads with
    | [] => []
    | first :: others =>
      let (row, i) :=
        others.foldl (fun best x => if l.compare x.1 best.1 = .lt then x else best) first
      row :: l.merge fuel (lists.modify i List.tail)

/-- The separator of fields that options name. -/
def separatorOf (o : Options) : Except Bytes (Option UInt8) :=
  match (o.values 't').getLast? with
  | none => .ok none
  | some [] => .error (.ofText "empty tab")
  | some [b] => .ok (some b)
  | some w =>
    if w = .ofText "\\0" then .ok (some 0)
    else .error (.ofText "multi-character tab " ++ inQuotes w)

/-- The order that options ask for. -/
def lineOrderOf (o : Options) : Except Bytes LineOrder := do
  let separator ← separatorOf o
  let global := orderLetters.toList.filter o.has
  let keys ← (o.values 'k').mapM (SortKey.ofBytes global)
  let keys := if keys.isEmpty then [⟨⟨1, 1, global.contains 'b'⟩, none, global⟩] else keys
  return ⟨keys, separator, o.has 's' || o.has 'u', o.has 'r'⟩

/-- Prints the lines of its input or of files in order, or says whether they are in order. -/
def sort : Given → Effect :=
  withOptions ⟨"bdfghiMnrVsuzmcC", "ktoST", "", [("reverse", 'r'), ("unique", 'u'),
    ("numeric-sort", 'n'), ("general-numeric-sort", 'g'), ("human-numeric-sort", 'h'),
    ("version-sort", 'V'), ("month-sort", 'M'), ("ignore-case", 'f'), ("dictionary-order", 'd'),
    ("ignore-leading-blanks", 'b'), ("stable", 's'), ("zero-terminated", 'z'), ("merge", 'm'),
    ("check", 'c'), ("key", 'k'), ("field-separator", 't'), ("output", 'o')]⟩ 2 fun g o words =>
    let ending : UInt8 := if o.has 'z' then 0 else 0x0A
    let written (rows : List Bytes) : Bytes := rows.flatMap (· ++ [ending])
    let words := if words.isEmpty then [inputWord] else words
    let stdin := g.leftBy words
    let text (word : Bytes) : Except Bytes Bytes :=
      match g.files.lookup word with
      | .ok .directory =>
        if isInput word then .ok (g.inputUnder word g.stdin)
        else .error (objection g.called "read failed: " (shellName word) "Is a directory")
      | _ => readWord g "cannot read: " g.files word
    let checks := o.has 'c' || o.has 'C'
    let checksMany := checks && 1 < words.length
    match lineOrderOf o, if checksMany then .ok [] else words.mapM text with
    | .error complaint, _ => g.refused 2 complaint
    | _, .error complaint => g.done 2 [] complaint
    | .ok order, .ok texts =>
      let lists := texts.map (rowsBy ending)
      if checksMany then
        g.refused 2 (.ofText "extra operand " ++ inShellQuotes (words.getD 1 [])
          ++ .ofText " not allowed with -c")
      else if checks then
        match order.disorder? (o.has 'u') lists.flatten with
        | none => { g.done 0 [] [] with stdin }
        | some (n, row) =>
          let complaint := complaintOf g.called (words.headD [] ++ .ofText (":" ++ toString n
            ++ ": disorder: ") ++ row)
          { g.done 1 [] (if o.has 'c' then complaint else []) with stdin }
      else
        let rows := if o.has 'm' then order.merge (lists.flatten.length + 1) lists
          else lists.flatten.mergeSort fun a b => (order.compare a b).isLE
        let out := written (if o.has 'u' then order.distinct rows else rows)
        match (o.values 'o').getLast? with
        | none => { g.done 0 out [] with stdin }
        | some path =>
          match g.files.placeToWrite path with
          | .ok place => { g.done 0 [] [] with stdin, files := g.files.write out place }
          | .error e => g.done 2 [] (objection g.called "open failed: " (shellName path) e.reason)

end BuildDispatch.Host.Programs
