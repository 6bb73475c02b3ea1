import BuildDispatch.Host.Arithmetic
import BuildDispatch.Host.Files

/-!
Conditions that scripts test: on files, texts and numbers, joined by `-a`, `-o`, `!` and
parentheses.
-/

namespace BuildDispatch.Host.Condition

/-- The operators of conditions. -/
inductive Operator where
  /-- Tests one operand. -/
  | unary (name : Char)
  | equal | unequal | before | after
  /-- Compares two numbers. -/
  | numbers (holds : Int → Int → Bool)
  /-- Compares two files. -/
  | files
  | negation | conjunction | disjunction | opening | closing

/-- The operator that a word spells. -/
def operator? (w : Bytes) : Option Operator :=
  let unary := "rwxefdcbpugkstznhOGLS".toList
  let table : List (String × Operator) := [
    ("=", .equal), ("!=", .unequal), ("<", .before), (">", .after),
    ("-eq", .numbers (· == ·)), ("-ne", .numbers (· != ·)),
    ("-ge", .numbers fun m n => decide (n ≤ m)), ("-gt", .numbers fun m n => decide (n < m)),
    ("-le", .numbers fun m n => decide (m ≤ n)), ("-lt", .numbers fun m n => decide (m < n)),
    ("-nt", .files), ("-ot", .files), ("-ef", .files),
    ("!", .negation), ("-a", .conjunction), ("-o", .disjunction), ("(", .opening), (")", .closing)]
  match table.find? fun x => Bytes.ofText x.1 = w with
  | some (_, o) => some o
  | none => (unary.find? fun c => Bytes.ofText (String.ofList ['-', c]) = w).map .unary

/-- Whether an operator stands between two operands. -/
def Operator.isBinary : Operator → Bool
  | .equal | .unequal | .before | .after | .numbers _ | .files => true
  | _ => false

/-- Whether a word is an operator between two operands. -/
def isBinary (w : Bytes) : Bool := ((operator? w).map Operator.isBinary).getD false

/-- The operator at the front of a condition; one that lacks its operand is an ordinary word. -/
def front? : List Bytes → Option Operator
  | [] => none
  | w :: r =>
    match operator? w with
    | some (.unary c) =>
      match r with
      | [] => none
      | [_] => some (.unary c)
      | v :: _ :: _ => if isBinary v then none else some (.unary c)
    | some .opening => if r.isEmpty then none else some .opening
    | other => other

/-- The number that a word spells in decimal digits. -/
def decimal? (w : Bytes) : Option Int :=
  let isSpace (x : UInt8) : Bool := x = 0x20 || (0x09 ≤ x && x ≤ 0x0D)
  let w := ((w.dropWhile isSpace).reverse.dropWhile isSpace).reverse
  let isSigned := w.head? = some (ascii '-') || w.head? = some (ascii '+')
  let digits := if isSigned then w.tail else w
  let n := digitsValue 10 digits
  if digits.isEmpty || !digits.all isDecimal || Arithmetic.maxInt < n then none
  else some (if w.head? = some (ascii '-') then -(n : Int) else n)

/-- The number that a word must spell. -/
def number (w : Bytes) : Except Bytes Int :=
  match decimal? w with
  | some n => .ok n
  | none => .error (.ofText "Illegal number: " ++ w)

/-- A test of what a descriptor leads to. -/
def holdsOfStream (name : Char) : Stream → Bool
  | .file content => "erwOGf".toList.contains name || (name = 's' && !content.isEmpty)
  | .pipe => "erwOGp".toList.contains name

/-- A test of one operand. -/
def holdsOfOne (files : Files) (name : Char) (w : Bytes) : Except Bytes Bool :=
  let found := files.lookup w
  let isOwn := files.isOwn w
  match if "znt".toList.contains name then none else files.stream? w with
  | some s => .ok (holdsOfStream name s)
  | none =>
    match name with
    | 'z' => .ok w.isEmpty
    | 'n' => .ok !w.isEmpty
    | 't' => do
      let _ ← number w
      .ok false
    | 'e' | 'r' | 'w' | 'O' | 'G' => .ok found.isOk
    | 'f' => .ok (match found with
      | .ok (.program _) => true
      | .ok (.file _) => isOwn
      | _ => false)
    | 'c' => .ok (match found with
      | .ok (.file _) => !isOwn
      | _ => false)
    | 'd' => .ok (match found with
      | .ok .directory => true
      | _ => false)
    | 'x' => .ok (match found with
      | .ok .directory | .ok (.program _) => true
      | _ => files.isRunnable w)
    | 's' => .ok (match found with
      | .ok (.file content) => !content.isEmpty
      | .ok _ => true
      | .error _ => false)
    | _ => .ok false

/-- A test of two operands. -/
def holdsOfTwo (files : Files) (o : Operator) (a b : Bytes) : Except Bytes Bool :=
  match o with
  | .equal => .ok (a == b)
  | .unequal => .ok (a != b)
  | .before => .ok (decide (a < b))
  | .after => .ok (decide (b < a))
  | .numbers holds => do
    let m ← number a
    let n ← number b
    .ok (holds m n)
  | _ => .ok ((files.lookup a).isOk && (match files.resolve a, files.resolve b with
    | .ok p, .ok q => p == q
    | _, _ => false))

mutual

/-- Conditions joined by `-o`: the outcome, and the words from the last one taken on. -/
def readEither (files : Files) : (fuel : Nat) → List Bytes → Except Bytes (Bool × List Bytes)
  | 0, ws => .ok (false, ws)
  | fuel + 1, ws => do
    let (a, ws) ← readBoth files fuel ws
    match front? ws.tail with
    | some .disjunction =>
      let (b, ws) ← readEither files fuel (ws.drop 2)
      .ok (a || b, ws)
    | _ => .ok (a, ws)

/-- Conditions joined by `-a`. -/
def readBoth (files : Files) : (fuel : Nat) → List Bytes → Except Bytes (Bool × List Bytes)
  | 0, ws => .ok (false, ws)
  | fuel + 1, ws => do
    let (a, ws) ← readOne files fuel ws
    match front? ws.tail with
    | some .conjunction =>
      let (b, ws) ← readBoth files fuel (ws.drop 2)
      .ok (a && b, ws)
    | _ => .ok (a, ws)

/-- One condition, perhaps negated. -/
def readOne (files : Files) : (fuel : Nat) → List Bytes → Except Bytes (Bool × List Bytes)
  | 0, ws => .ok (false, ws)
  | fuel + 1, ws =>
    match front? ws with
    | some .negation => do
      let (a, ws) ← readOne files fuel (if ws.tail.isEmpty then [] else ws.tail)
      .ok (!a, ws)
    | some .opening =>
      match front? ws.tail with
      | some .closing => .ok (false, ws.tail)
      | _ => do
        let (a, ws) ← readEither files fuel ws.tail
        match front? ws.tail with
        | some .closing => .ok (a, ws.tail)
        | _ => .error (.ofText "closing paren expected")
    | some (.unary c) =>
      match ws with
      | _ :: w :: r => do .ok (← holdsOfOne files c w, w :: r)
      | _ => .error ((ws.headD []) ++ .ofText ": argument expected")
    | _ =>
      match ws with
      | [] => .ok (false, [])
      | a :: o :: r =>
        match front? (o :: r) with
        | some op =>
          if op.isBinary then
            match r with
            | [] => .error (o ++ .ofText ": argument expected")
            | b :: r => do .ok (← holdsOfTwo files op a b, b :: r)
          else .ok (!a.isEmpty, a :: o :: r)
        | none => .ok (!a.isEmpty, a :: o :: r)
      | [a] => .ok (!a.isEmpty, [a])

end

/-- Reads a whole condition; what follows it has no meaning. -/
def readWhole (files : Files) (ws : List Bytes) : Except Bytes Bool :=
  match readEither files (4 * ws.length + 4) ws with
  | .error e => .error e
  | .ok (_, w :: _ :: _) =>
    .error ((if w.isEmpty then w else w ++ .ofText ": ") ++ .ofText "unexpected operator")
  | .ok (a, _) => .ok a

/-- Whether a condition holds, or what is wrong with it.  A negation or parentheses around the whole
count for more than operators within, and an operator between two words for more than either. -/
def holds (files : Files) : List Bytes → Except Bytes Bool
  | [] => .ok false
  | [a, o, b] =>
    match operator? o with
    | some op =>
      if op.isBinary then holdsOfTwo files op a b
      else around files [a, o, b]
    | none => around files [a, o, b]
  | [a, b, c, d] => around files [a, b, c, d]
  | ws => readWhole files ws
where
  /-- A condition of three or four words. -/
  around (files : Files) (ws : List Bytes) : Except Bytes Bool :=
    if ws.head? = some (Bytes.ofText "(") && ws.getLast? = some (Bytes.ofText ")") then
      readWhole files ws.tail.dropLast
    else if ws.head? = some (Bytes.ofText "!") then do .ok !(← inner files ws.tail)
    else readWhole files ws
  /-- What stands behind a negation.  Three words are taken for themselves, but a second negation in
  front of them adds nothing to the first. -/
  inner (files : Files) (ws : List Bytes) : Except Bytes Bool :=
    match ws with
    | [a, o, b] =>
      match operator? o with
      | some op => if op.isBinary then holdsOfTwo files op a b else ofThree files a o b
      | none => ofThree files a o b
    | ws => readWhole files ws
  /-- Three words behind a negation, without an operator between two words. -/
  ofThree (files : Files) (a o b : Bytes) : Except Bytes Bool :=
    if a = Bytes.ofText "(" && b = Bytes.ofText ")" then readWhole files [o]
    else if a = Bytes.ofText "!" then readWhole files [o, b]
    else readWhole files [a, o, b]

end BuildDispatch.Host.Condition
