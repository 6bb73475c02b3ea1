import BuildDispatch.Host.Pattern
import BuildDispatch.Host.Regex

/-!
Reading of regular expressions.  There are two ways to write them: in the plain one, parentheses,
braces, bars, plus signs and question marks are operators behind a backslash; in the extended one,
without it.
-/

namespace BuildDispatch.Host.Regex

/-- How expressions are written, and what they match. -/
structure Writing where
  extended : Bool
  /-- Letters of both cases are the same. -/
  foldsCase : Bool
  /-- Edges of the line are edges of each row of a text. -/
  inRows : Bool
  /-- A repetition must have something to repeat. -/
  isStrict : Bool
  /-- Ranges of bytes may be empty. -/
  emptyRanges : Bool

/-- A mark of an expression. -/
inductive Mark where
  | one (holds : UInt8 → Bool)
  | edge (e : Edge)
  | opening
  | closing
  | bar
  | repeated (least : Nat) (most : Option Nat)
  | again (number : Nat)
  /-- A repetition of nothing, as it is named. -/
  | idle (name : String)
  /-- The set that follows is written like the name of a class without its own brackets. -/
  | bareClass
  /-- Something is wrong from here on. -/
  | fault (reason : String)

/-- What goes before a mark. -/
inductive Before where
  | start
  /-- Edges alone, which cannot be repeated. -/
  | edge
  | atom
  | repetition
  deriving DecidableEq

/-- The letter of the other case. -/
def otherCase (b : UInt8) : UInt8 :=
  if ascii 'a' ≤ b && b ≤ ascii 'z' then b - 32
  else if ascii 'A' ≤ b && b ≤ ascii 'Z' then b + 32
  else b

/-- Whether bytes count as the same. -/
def Writing.same (w : Writing) (a b : UInt8) : Bool :=
  a == b || (w.foldsCase && otherCase a == b)

/-- A set, with the letters of the other case if cases are the same. -/
def Writing.widened (w : Writing) (holds : UInt8 → Bool) (b : UInt8) : Bool :=
  holds b || (w.foldsCase && holds (otherCase b))

/-! ### Sets in brackets -/

/-- The classes of bytes that brackets may name. -/
def classNames : List Bytes := ["alnum", "alpha", "blank", "cntrl", "digit", "graph", "lower",
  "print", "punct", "space", "upper", "xdigit"].map Bytes.ofText

/-- What is wrong with brackets that are not closed. -/
def unclosedSet : String := "Unmatched [, [^, [:, [., or [="

/-- The byte between inner brackets with a mark, and what follows them. -/
def namedByte (mark : UInt8) (r : Bytes) : Except String (UInt8 × Bytes) :=
  match r.takeWhile (· != mark) with
  | [b] => .ok (b, r.drop 3)
  | _ => .error "Invalid collation character"

/-- One end of a range in brackets, and what follows it. -/
def rangeEnd : Bytes → Except String (UInt8 × Bytes)
  | [] => .error unclosedSet
  | 0x5B :: 0x2E :: r => namedByte (ascii '.') r
  | 0x5B :: 0x3D :: r => namedByte (ascii '=') r
  | b :: r => .ok (b, r)

/-- The sets in brackets up to the closing one, and what follows.  A closing bracket that comes
first stands for itself. -/
def sets (emptyRanges : Bool) : (fuel : Nat) → (first : Bool) → Bytes →
    Except String (List (UInt8 → Bool) × Bytes)
  | 0, _, _ => .error unclosedSet
  | _, _, [] => .error unclosedSet
  | fuel + 1, first, b :: r => do
    let more (holds : UInt8 → Bool) (rest : Bytes) :
        Except String (List (UInt8 → Bool) × Bytes) := do
      let (others, rest) ← sets emptyRanges fuel false rest
      return (holds :: others, rest)
    if b = ascii ']' && !first then return ([], r)
    else if b = ascii '[' && r.head? = some (ascii ':') then
      let name := r.tail.takeWhile (· != ascii ':')
      if !(Bytes.ofText ":]").isPrefixOf (r.tail.drop name.length) then
        if r.tail.contains (ascii ']') then more (· == b) r else throw unclosedSet
      else if classNames.contains name then more (Pattern.inClass name) (r.drop (name.length + 3))
      else throw "Invalid character class name"
    else if b = ascii '-' && !first && r.head? != some (ascii ']') then throw "Invalid range end"
    else
      let (low, rest) ← rangeEnd (b :: r)
      match rest with
      | 0x2D :: y :: after =>
        if y = ascii ']' then more (· == low) rest
        else
          let (high, rest) ← rangeEnd (y :: after)
          if high < low && !emptyRanges then throw "Invalid range end"
          else more (fun x => low ≤ x && x ≤ high) rest
      | rest => more (· == low) rest

/-- The set in brackets behind the opening one, and what follows. -/
def Writing.set (w : Writing) (b : Bytes) : Except String ((UInt8 → Bool) × Bytes) := do
  let isNegated := b.head? = some (ascii '^')
  let inner := if isNegated then b.tail else b
  if inner.isEmpty then throw "Invalid regular expression"
  else
    let (members, rest) ← sets w.emptyRanges (inner.length + 1) true inner
    return (fun x => (members.any fun s => w.widened s x) != isNegated, rest)

/-- Whether brackets, behind the opening one, hold single bytes alone between two colons, so that
what is meant may be the name of a class. -/
def isBareClass (b : Bytes) : Bool :=
  let inner := if b.head? = some (ascii '^') then b.tail else b
  let held := inner.takeWhile (· != ascii ']')
  let parts := held.dropLast.tail
  1 < held.length && held.head? = some (ascii ':') && held.getLast? = some (ascii ':')
    && parts.any (· != ascii ':') && !parts.contains (ascii '-')
    && !(Bytes.ofText "[:").isPrefixOf (parts.dropWhile (· != ascii '['))

/-! ### Marks -/

/-- The bounds in braces behind the opening one, and what follows the closing one. -/
def bounds (closing : Bytes) (b : Bytes) : Except String (Nat × Option Nat × Bytes) :=
  let least := b.takeWhile isDecimal
  let rest := b.drop least.length
  let hasRange := rest.head? = some (ascii ',')
  let most := if hasRange then rest.tail.takeWhile isDecimal else []
  let after := if hasRange then rest.tail.drop most.length else rest
  let low := digitsValue 10 least
  let high : Option Nat :=
    if !hasRange then some low else if most.isEmpty then none else some (digitsValue 10 most)
  let isClosed := (List.range (after.length + 1)).any fun i => closing.isPrefixOf (after.drop i)
  if !isClosed then .error "Unmatched \\\x7b"
  else if !closing.isPrefixOf after || (least.isEmpty && !hasRange) || high.any (· < low) then
    .error "Invalid content of \\\x7b\\\x7d"
  else if 32767 < high.getD low then .error "Regular expression too big"
  else .ok (low, high, after.drop closing.length)

/-- What a backslash and a letter mean in both ways of writing. -/
def letterMark? (b : UInt8) : Option Mark :=
  let isSpace (x : UInt8) : Bool := x = 0x20 || (0x09 ≤ x && x ≤ 0x0D)
  ([('w', Mark.one isWord), ('W', .one (!isWord ·)), ('s', .one isSpace), ('S', .one (!isSpace ·)),
    ('b', .edge .wordEdge), ('B', .edge .noWordEdge), ('<', .edge .wordStart),
    ('>', .edge .wordEnd), ('\x60', .edge .lineStart), ('\'', .edge .lineEnd)]
    : List (Char × Mark)).findSome? fun (c, m) => if ascii c = b then some m else none

/-- The operator that a character is, where it is one. -/
def operator? (b : UInt8) : Option Mark :=
  ([('(', Mark.opening), (')', .closing), ('|', .bar), ('+', .repeated 1 none),
    ('?', .repeated 0 (some 1))]
    : List (Char × Mark)).findSome? fun (c, m) => if ascii c = b then some m else none

/-- What goes before the next mark, behind a mark. -/
def Writing.after (w : Writing) (before : Before) : Mark → Before
  | .opening | .bar => .start
  | .repeated _ _ => .repetition
  | .edge _ => if w.isStrict || before = .start then .edge else before
  | _ => .atom

/-- What is wrong with a repetition of nothing. -/
def loneRepetition : String := "Invalid preceding regular expression"

/-- The marks of an expression; `depth` says how many parentheses are open. -/
def marks : (fuel : Nat) → Writing → (before : Before) → (depth : Nat) → Bytes → List Mark
  | 0, _, _, _, _ => []
  | _, _, _, _, [] => []
  | fuel + 1, w, before, depth, b :: r =>
    let isFirst := before = .start || before = .edge
    let putAs (before : Before) (m : Mark) (r : Bytes) : List Mark :=
      let depth := match m with
        | .opening => depth + 1
        | .closing => depth - 1
        | _ => depth
      m :: marks fuel w before depth r
    let put (m : Mark) (r : Bytes) : List Mark := putAs (w.after before m) m r
    let plain (b : UInt8) (r : Bytes) : List Mark := put (.one (w.same b)) r
    let repetition (m : Mark) (name : String) (b : UInt8) (r : Bytes) : List Mark :=
      if !isFirst then put m r
      else if !w.extended then plain b r
      else if w.isStrict then [.fault loneRepetition]
      else .idle name :: putAs (if b = ascii '\x7b' then .repetition else before) m r
    let operator (m : Mark) (b : UInt8) (r : Bytes) : List Mark :=
      match m with
      | .repeated .. => repetition m (String.ofList [Char.ofNat b.toNat]) b r
      | .closing =>
        if depth = 0 then
          if w.extended && !w.isStrict then plain b r else [.fault "Unmatched ) or \\)"]
        else put m r
      | m => put m r
    let counted (m : Mark) (name : String) (r : Bytes) : List Mark :=
      if !w.extended && w.isStrict && before = .repetition then [.fault loneRepetition]
      else repetition m name b r
    if b = ascii '\\' then
      match r with
      | [] => [.fault "Trailing backslash"]
      | c :: rest =>
        if ascii '1' ≤ c && c ≤ ascii '9' then put (.again (c.toNat - 48)) rest
        else
          match letterMark? c with
          | some m => put m rest
          | none =>
            if w.extended then plain c rest
            else if c = ascii '\x7b' then
              if isFirst then
                if w.isStrict then [.fault loneRepetition] else plain c rest
              else if w.isStrict && before = .repetition then [.fault loneRepetition]
              else
                match bounds (.ofText "\\\x7d") rest with
                | .ok (least, most, rest) => put (.repeated least most) rest
                | .error e => [.fault e]
            else
              match operator? c with
              | some m => operator m c rest
              | none => plain c rest
    else if b = ascii '[' then
      match w.set r with
      | .ok (holds, rest) =>
        if isBareClass r then .bareClass :: put (.one holds) rest else put (.one holds) rest
      | .error e => [.fault e]
    else if b = ascii '.' then put (.one fun _ => true) r
    else if b = ascii '*' then counted (.repeated 0 none) "*" r
    else if b = ascii '^' then
      if w.extended || before = .start then
        put (.edge (if w.inRows then .rowStart else .lineStart)) r
      else plain b r
    else if b = ascii '$' then
      let ends := ["\\)", "\\|"].any fun s => (Bytes.ofText s).isPrefixOf r
      if w.extended || r.isEmpty || ends then
        put (.edge (if w.inRows then .rowEnd else .lineEnd)) r
      else plain b r
    else if w.extended then
      if b = ascii '\x7b' then
        if isFirst && w.isStrict then [.fault loneRepetition]
        else
          match bounds (.ofText "\x7d") r with
          | .ok (least, most, rest) =>
            repetition (.repeated least most) "\x7b...\x7d" b rest
          | .error e =>
            if w.isStrict || (!isFirst && isFaulty e r) then [.fault e] else plain b r
      else
        match operator? b with
        | some m => operator m b r
        | none => plain b r
    else plain b r
where
  /-- Whether braces are wrong, so that they cannot stand for themselves: they hold two numbers that
  do not fit, one that is too big, or nothing. -/
  isFaulty (e : String) (b : Bytes) : Bool :=
    let rest := b.dropWhile isDecimal
    let hasTwo := rest.head? = some (ascii ',') &&
      (rest.tail.dropWhile isDecimal).head? = some (ascii '\x7d')
    e.startsWith "Regular" || (e.startsWith "Invalid" && (hasTwo || b.head? = some (ascii '\x7d')))

/-! ### Expressions -/

/-- The groups so far: the number of the next one, and those that are closed. -/
structure Groups where
  next : Nat
  closed : List Nat

mutual

/-- Alternatives.  One can refer to groups before all of them and to its own. -/
def alternatives : (fuel : Nat) → Groups → List Mark → Except String (Regex × Groups × List Mark)
  | 0, groups, l => .ok (.empty, groups, l)
  | fuel + 1, groups, l => do
    let (first, after, rest) ← branch fuel groups .empty l
    match rest with
    | .bar :: rest =>
      let (second, last, rest) ← alternatives fuel ⟨after.next, groups.closed⟩ rest
      return (.either first second, ⟨last.next, after.closed ++ last.closed⟩, rest)
    | rest => return (first, after, rest)

/-- The rest of a branch behind what is already read. -/
def branch : (fuel : Nat) → Groups → (before : Regex) → List Mark →
    Except String (Regex × Groups × List Mark)
  | 0, groups, before, l => .ok (before, groups, l)
  | _, groups, before, [] => .ok (before, groups, [])
  | fuel + 1, groups, before, m :: r => do
    let withRepeats (atom : Regex) (groups : Groups) (r : List Mark) :
        Except String (Regex × Groups × List Mark) :=
      let count := (r.takeWhile isRepeat).length
      let whole := (r.take count).foldl repeatedBy atom
      branch fuel groups (.sequence before whole) (r.drop count)
    match m with
    | .bar | .closing => return (before, groups, m :: r)
    | .one holds => withRepeats (.one holds) groups r
    | .edge e => withRepeats (.edge e) groups r
    | .again number =>
      if groups.closed.contains number then withRepeats (.again number) groups r
      else throw "Invalid back reference"
    | .repeated .. | .idle _ | .bareClass => branch fuel groups before r
    | .fault e => throw e
    | .opening =>
      let number := groups.next
      let (inner, after, rest) ← alternatives fuel ⟨number + 1, groups.closed⟩ r
      match rest with
      | .closing :: rest =>
        withRepeats (.group number inner) ⟨after.next, number :: after.closed⟩ rest
      | _ => throw "Unmatched ( or \\("
where
  /-- Whether a mark repeats what stands before it. -/
  isRepeat : Mark → Bool
    | .repeated .. | .idle _ => true
    | _ => false
  /-- An expression repeated as a mark says. -/
  repeatedBy (r : Regex) : Mark → Regex
    | .repeated least most => .repeated r least most
    | _ => r

end

/-- The expression of a text with the number of its groups, or what is wrong with it. -/
def readBytes (w : Writing) (b : Bytes) : Except String (Regex × Nat) := do
  let l := marks (b.length + 1) w .start 0 b
  let (r, groups, rest) ← alternatives (4 * (l.length + 1)) ⟨1, []⟩ l
  match rest with
  | [] => return (r, groups.next - 1)
  | _ => throw "Unmatched ) or \\)"

/-- The expression of a text, or what is wrong with it. -/
def ofBytes (w : Writing) (b : Bytes) : Except String Regex := (readBytes w b).map (·.1)

/-- What is said of a set that is written like the name of a class. -/
def bareClass : String := "character class syntax is [[:space:]], not [:space:]"

/-- Whether an expression holds a set that is written like the name of a class. -/
def hasBareClass (w : Writing) (b : Bytes) : Bool :=
  (marks (b.length + 1) w .start 0 b).any fun
    | .bareClass => true
    | _ => false

/-- The repetitions of nothing in an expression, as they are named. -/
def idleRepetitions (w : Writing) (b : Bytes) : List String :=
  (marks (b.length + 1) w .start 0 b).filterMap fun
    | .idle name => some name
    | _ => none

end BuildDispatch.Host.Regex
