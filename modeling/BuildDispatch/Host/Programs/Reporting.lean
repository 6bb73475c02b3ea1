import BuildDispatch.Host.Programs.Basic
import BuildDispatch.Host.Report.Reader
import BuildDispatch.Host.Report.Value

/-!
Reports carried out: the records of a text are taken one after the other, and the rules that are for
a record are followed.
-/

namespace BuildDispatch.Host.Programs

open Report
open Decimal (Binary64)

/-- What a name in a function stands for. -/
inductive Local where
  | value (v : Value)
  /-- A table, by the name it has among all. -/
  | table (name : Bytes)
  /-- Nothing yet; if it becomes a table, one of this name. -/
  | open (name : Bytes)

/-- The state of a report. -/
structure Reporter where
  called : Bytes
  functions : List Definition
  globals : List (Bytes × Value)
  tables : List (Bytes × List (Bytes × Value))
  locals : List (Bytes × Local)
  /-- How many calls there have been. -/
  calls : Nat
  record : Bytes
  fields : List Value
  /-- What is left of the source at hand. -/
  source : Option Bytes
  /-- The words that are left to be read from. -/
  words : List Bytes
  /-- Whether something has been read from. -/
  hasRead : Bool
  /-- What is left of the files that are read apart. -/
  files : List (Bytes × Bytes)
  /-- The files that have been printed to. -/
  printed : List Bytes
  /-- The ranges that are open, by the numbers of their rules. -/
  ranges : List Nat
  stdin : Bytes
  out : Bytes
  stderr : Bytes
  system : Files

/-- Why a statement is not followed to its end. -/
inductive Reporter.Stop where
  | next
  | ended (status : Option Nat)
  | gave (v : Value)
  | left
  | again
  | fault (complaint : Bytes)

/-- A part of a report that is carried out. -/
abbrev Reporting := ExceptT Reporter.Stop (StateM Reporter)

namespace Reporter

/-- The value under a name in a list. -/
def lookup {α : Type} (name : Bytes) (l : List (Bytes × α)) : Option α := l.lookup name

/-- A list with a value under a name. -/
def put {α : Type} (name : Bytes) (v : α) (l : List (Bytes × α)) : List (Bytes × α) :=
  if l.any (·.1 = name) then l.map fun e => if e.1 = name then (name, v) else e
  else l ++ [(name, v)]

/-- A variable that holds text. -/
def textOf (s : Reporter) (name : String) : Bytes :=
  ((s.globals.lookup (.ofText name)).getD .unset).toText (.ofText "%.6g")

/-- The format in which numbers become texts. -/
def convert (s : Reporter) : Bytes := s.textOf "CONVFMT"

/-- How the fields of a record are told apart. -/
def separator (s : Reporter) : Separator := .ofBytes (s.textOf "FS")

/-- A value as text. -/
def text (v : Value) : Reporting Bytes := do return v.toText (← get).convert

/-- The state with another record. -/
def withRecord (s : Reporter) (b : Bytes) : Reporter :=
  let inRows := (s.textOf "RS").isEmpty
  let rows := if inRows then splitOn 0x0A b else [b]
  { s with record := b, fields := (rows.flatMap s.separator.split).map .found }

/-- The state with other fields, from which the record is made. -/
def withFields (s : Reporter) (fields : List Value) : Reporter :=
  let texts := fields.map fun v => v.toText s.convert
  { s with fields, record := (s.textOf "OFS").intercalate texts }

/-- Ends the report with a complaint. -/
def fault {α : Type} (complaint : Bytes) : Reporting α := do throw (.fault complaint)

/-- Ends the report with a complaint about what it does at its place in the text. -/
def runTimeFault {α : Type} (complaint : Bytes) : Reporting α := do
  let s ← get
  let number (name : String) : Bytes := s.textOf name
  fault (.ofText "run time error: " ++ complaint ++ .ofText "\n\tFILENAME=\"" ++ s.textOf "FILENAME"
    ++ .ofText "\" FNR=" ++ number "FNR" ++ .ofText " NR=" ++ number "NR")

/-- Values in a format; ends the report if it cannot be followed, with what was made before. -/
def format (function : String) (isPrinted : Bool) (f : Bytes) (values : List Value) :
    Reporting Bytes := do
  match formatted (← get).convert (f.length + 1) 1 f values with
  | (b, none) => return b
  | (b, some flaw) =>
    if isPrinted then modify fun s => { s with out := s.out ++ b }
    let what : String := match flaw with
      | .missingWord => "not enough arguments passed to "
      | .badDirective n => "improper conversion(number " ++ toString n ++ ") in "
    runTimeFault (.ofText (what ++ function ++ "(\"") ++ f ++ .ofText "\")")

/-! ### Variables and tables -/

/-- The variable that counts the fields of the record. -/
def countName : Bytes := .ofText "NF"

/-- The value of a variable. -/
def value (name : Bytes) : Reporting Value := do
  let s ← get
  match s.locals.lookup name with
  | some (.value v) => return v
  | some _ => return .unset
  | none =>
    if name = countName then return .ofInt s.fields.length
    else return (s.globals.lookup name).getD .unset

/-- Gives a variable a value. -/
def setValue (name : Bytes) (v : Value) : Reporting Unit := do
  let s ← get
  if (s.locals.lookup name).isSome then
    set { s with locals := put name (.value v) s.locals }
  else if name = countName then
    let n := ((v.toNumber.truncated?).getD 0).toNat
    let missing := List.replicate (n - s.fields.length) Value.unset
    set (s.withFields ((s.fields ++ missing).take n))
  else set { s with globals := put name v s.globals }

/-- The name under which a table is kept. -/
def tableName (name : Bytes) : Reporting Bytes := do
  let s ← get
  match s.locals.lookup name with
  | some (.table own) => return own
  | some (.open own) =>
    set { s with locals := put name (.table own) s.locals }
    return own
  | _ => return name

/-- The entries of a table. -/
def entries (table : Bytes) : Reporting (List (Bytes × Value)) := do
  let own ← tableName table
  return ((← get).tables.lookup own).getD []

/-- Gives a table other entries. -/
def setEntries (table : Bytes) (l : List (Bytes × Value)) : Reporting Unit := do
  let own ← tableName table
  modify fun s => { s with tables := put own l s.tables }

/-- The value of a field; the one with the number zero is the record. -/
def field (n : Binary64) : Reporting Value := do
  let s ← get
  match n.truncated? with
  | some (Int.ofNat 0) => return .found s.record
  | some (Int.ofNat (i + 1)) => return (s.fields[i]?).getD .unset
  | some i => runTimeFault (.ofText ("negative field index $" ++ toString i))
  | none => return .unset

/-- Gives a field a value. -/
def setField (n : Binary64) (v : Value) : Reporting Unit := do
  let s ← get
  match n.truncated? with
  | some (Int.ofNat 0) => set (s.withRecord (v.toText s.convert))
  | some (Int.ofNat (i + 1)) =>
    let missing := List.replicate (i + 1 - s.fields.length) Value.unset
    set (s.withFields ((s.fields ++ missing).set i v))
  | some i => runTimeFault (.ofText ("negative field index $" ++ toString i))
  | none => return ()

/-! ### Input and output -/

/-- The first record of a text, and what is left; `none` at the end. -/
def firstRecord? (s : Reporter) (b : Bytes) : Option (Bytes × Bytes) :=
  if b.isEmpty then none
  else
    match s.textOf "RS" with
    | [] =>
      let b := b.dropWhile (· = 0x0A)
      let r : Regex := .sequence (.one (· = 0x0A)) (.repeated (.one (· = 0x0A)) 1 none)
      if b.isEmpty then none
      else match r.match? b with
        | some m => some (m.front, m.rest)
        | none => some (bare b, [])
    | [x] =>
      let record := b.takeWhile (· != x)
      some (record, b.drop (record.length + 1))
    | separator =>
      let isProper (p q : Regex.Place) : Bool := q.rest.length < p.rest.length
      match (regexOf separator).find? isProper [] ⟨none, b, []⟩ with
      | some m => some (m.front, m.rest)
      | none => some (b, [])

/-- A word that gives a variable a value, if it is one. -/
def assignment? (w : Bytes) : Option (Bytes × Value) :=
  let name := w.takeWhile isNameByte
  let rest := w.drop name.length
  if name.isEmpty || (name.head?.map isDecimal).getD false || rest.head? != some (ascii '=') then
    none
  else some (name, .found (unescapedText rest.length rest.tail))

/-- The content of what a word names. -/
def content (word : Bytes) : Reporting Bytes := do
  let s ← get
  if isInput word then
    set { s with stdin := [] }
    return s.stdin
  else
    match s.system.lookup word with
    | .ok (.file b) => return b
    | .ok .directory => fault (.ofText "read error (Is a directory)")
    | .ok (.program _) => return []
    | .error e =>
      fault (.ofText "cannot open \"" ++ word ++ .ofText ("\" (" ++ e.reason ++ ")"))

/-- The next record of the input, if there is one. -/
def nextRecord? : (fuel : Nat) → Reporting (Option Bytes)
  | 0 => return none
  | fuel + 1 => do
    let s ← get
    match s.source with
    | some b =>
      match s.firstRecord? b with
      | some (record, rest) =>
        set { s with source := some rest }
        let up (name : String) : Reporting Unit := do
          let n ← value (.ofText name)
          setValue (.ofText name) (.number (n.toNumber.plus .one))
        up "NR"
        up "FNR"
        return some record
      | none =>
        set { s with source := none }
        nextRecord? fuel
    | none =>
      match s.words with
      | [] =>
        if s.hasRead then return none
        else
          let b ← content inputWord
          modify fun s => { s with source := some b, hasRead := true }
          nextRecord? fuel
      | w :: rest =>
        set { s with words := rest }
        match assignment? w with
        | some (name, v) =>
          setValue name v
          nextRecord? fuel
        | none =>
          if w.isEmpty then nextRecord? fuel
          else
            let b ← content w
            modify fun s => { s with source := some b, hasRead := true }
            setValue (.ofText "FILENAME") (.text w)
            setValue (.ofText "FNR") (.ofInt 0)
            nextRecord? fuel

/-- How often the next record is sought at most. -/
def sources (s : Reporter) : Nat := 3 * s.words.length + 5

/-- Prints bytes to a file, which is emptied when the first ones are. -/
def printTo (path : Bytes) (behind : Bool) (b : Bytes) : Reporting Unit := do
  let s ← get
  match descriptorOf? path with
  | some 2 => set { s with stderr := s.stderr ++ b }
  | some _ => set { s with out := s.out ++ b }
  | none =>
    if path = inputWord then set { s with out := s.out ++ b }
    else
      match s.system.placeToWrite path with
      | .error e =>
        fault (.ofText "cannot open \"" ++ path ++ .ofText ("\" for output (" ++ e.reason ++ ")"))
      | .ok place =>
        let isNew := !s.printed.contains path
        set { s with
          printed := if isNew then path :: s.printed else s.printed
          system := if isNew && !behind then s.system.write b place else s.system.append b place }

/-! ### Expressions -/

/-- A function of the language on numbers. -/
def numeric? : Function → Option (Binary64 → Binary64)
  | .truncate => some fun n => ((n.truncated?).map Binary64.ofInt).getD n
  | .root => some (.viaMachine Float.sqrt)
  | .exponential => some (.viaMachine Float.exp)
  | .logarithm => some (.viaMachine Float.log)
  | .sine => some (.viaMachine Float.sin)
  | .cosine => some (.viaMachine Float.cos)
  | _ => none

/-- What joins two numbers. -/
def join : Arithmetic → Binary64 → Binary64 → Binary64
  | .plus, a, b => a.plus b
  | .minus, a, b => a.minus b
  | .times, a, b => a.times b
  | .over, a, b => a.quotient b
  | .remainder, a, b => a.remainder b
  | .power, a, b => a.power b

/-- Whether two values compare as asked: as numbers if both count as numbers, and else as texts. -/
def compares (convert : Bytes) (op : Report.Comparison) (a b : Value) : Bool :=
  let order : Option Ordering :=
    match a.asNumber?, b.asNumber? with
    | some m, some n => m.compare? n
    | _, _ => some (compare (a.toText convert) (b.toText convert))
  match op, order with
  | .less, some .lt | .equal, some .eq | .greater, some .gt => true
  | .atMost, some .lt | .atMost, some .eq | .atLeast, some .gt | .atLeast, some .eq => true
  | .unequal, some .eq => false
  | .unequal, _ => true
  | _, _ => false

/-- A part of a text: from a place on, so many bytes or all that follow. -/
def part (b : Bytes) (first : Binary64) (length : Option Binary64) : Bytes :=
  let whole (n : Binary64) : Int :=
    match n with
    | .infinite s => if s then -(b.length : Int) - 2 else b.length + 2
    | n => (n.truncated?).getD 0
  let start := whole first
  let stop : Int := (length.map fun n => start + whole n).getD (b.length + 1)
  let start := max 1 start
  (b.drop (start - 1).toNat).take (stop - start).toNat

/-- What stands for an expression as a regular expression. -/
def regexOfValue (v : Value) : Reporting Regex := do return regexOf (← text v)

mutual

/-- The value of an expression. -/
def evaluate : (fuel : Nat) → Expr → Reporting Value
  | 0, _ => return .unset
  | fuel + 1, e => do
    match e with
    | .number n => return .number n
    | .text b => return .text b
    | .pattern r => return .ofBool (r.match? (← get).record).isSome
    | .target t => valueOf fuel t
    | .assign t none e =>
      let v ← evaluate fuel e
      give fuel t v
      return v
    | .assign t (some op) e =>
      let v ← evaluate fuel e
      let before ← valueOf fuel t
      let result := Value.number (join op before.toNumber v.toNumber)
      give fuel t result
      return result
    | .count t up behind =>
      let before := (← valueOf fuel t).toNumber
      let result := if up then before.plus .one else before.minus .one
      give fuel t (.number result)
      return .number (if behind then before else result)
    | .not e => return .ofBool !(← evaluate fuel e).isTrue
    | .negative e => return .number (← evaluate fuel e).toNumber.negated
    | .positive e => return .number (← evaluate fuel e).toNumber
    | .both a b =>
      if (← evaluate fuel a).isTrue then return .ofBool (← evaluate fuel b).isTrue
      else return .ofBool false
    | .either a b =>
      if (← evaluate fuel a).isTrue then return .ofBool true
      else return .ofBool (← evaluate fuel b).isTrue
    | .choice c a b =>
      if (← evaluate fuel c).isTrue then evaluate fuel a else evaluate fuel b
    | .arithmetic op a b =>
      let a ← evaluate fuel a
      let b ← evaluate fuel b
      return .number (join op a.toNumber b.toNumber)
    | .compare op a b =>
      let a ← evaluate fuel a
      let b ← evaluate fuel b
      return .ofBool (compares (← get).convert op a b)
    | .joined a b =>
      let a ← text (← evaluate fuel a)
      let b ← text (← evaluate fuel b)
      return .text (a ++ b)
    | .matching isInverse a r =>
      let b ← text (← evaluate fuel a)
      let r ← regex fuel r
      return .ofBool ((r.match? b).isSome != isInverse)
    | .within subscripts table =>
      let key ← subscript fuel subscripts
      return .ofBool ((← entries table).any (·.1 = key))
    | .call name args => call fuel name args
    | .builtin f args => builtin fuel f args
    | .read t file => read fuel t file

/-- The regular expression that an expression gives. -/
def regex : (fuel : Nat) → Expr → Reporting Regex
  | 0, _ => return .empty
  | fuel + 1, e => do
    match e with
    | .pattern r => return r
    | e => regexOfValue (← evaluate fuel e)

/-- The key of an entry. -/
def subscript : (fuel : Nat) → List Expr → Reporting Bytes
  | 0, _ => return []
  | _, [] => return []
  | fuel + 1, e :: rest => do
    let b ← text (← evaluate fuel e)
    if rest.isEmpty then return b
    else return b ++ (← get).textOf "SUBSEP" ++ (← subscript fuel rest)

/-- The values of expressions. -/
def evaluateAll : (fuel : Nat) → List Expr → Reporting (List Value)
  | 0, _ => return []
  | _, [] => return []
  | fuel + 1, e :: rest => do
    let v ← evaluate fuel e
    return v :: (← evaluateAll fuel rest)

/-- The value that something has. -/
def valueOf : (fuel : Nat) → Target → Reporting Value
  | 0, _ => return .unset
  | fuel + 1, t => do
    match t with
    | .variable name => value name
    | .field e => field (← evaluate fuel e).toNumber
    | .entry table subscripts =>
      let key ← subscript fuel subscripts
      let l ← entries table
      match l.lookup key with
      | some v => return v
      | none =>
        setEntries table (l ++ [(key, .unset)])
        return .unset

/-- Gives something a value. -/
def give : (fuel : Nat) → Target → Value → Reporting Unit
  | 0, _, _ => return ()
  | fuel + 1, t, v => do
    match t with
    | .variable name => setValue name v
    | .field e => setField (← evaluate fuel e).toNumber v
    | .entry table subscripts =>
      let key ← subscript fuel subscripts
      setEntries table (put key v (← entries table))

/-- Reads a record of the input or of a file: one for success, zero at the end, and minus one if
there is no such file. -/
def read : (fuel : Nat) → Option Target → Option Expr → Reporting Value
  | 0, _, _ => return .unset
  | fuel + 1, t, file => do
    match file with
    | none =>
      match ← nextRecord? (← get).sources with
      | none => return .ofInt 0
      | some b =>
        match t with
        | none => modify fun s => s.withRecord b
        | some t => give fuel t (.found b)
        return .ofInt 1
    | some e =>
      let path ← text (← evaluate fuel e)
      let s ← get
      let whole := match s.files.lookup path with
        | some b => some b
        | none => if isInput path then some s.stdin else s.system.content? path
      let s := if isInput path then { s with stdin := [] } else s
      match whole with
      | none => return .ofInt (-1)
      | some b =>
        match s.firstRecord? b with
        | none =>
          set { s with files := put path [] s.files }
          return .ofInt 0
        | some (record, rest) =>
          set { s with files := put path rest s.files }
          match t with
          | none => modify fun s => s.withRecord record
          | some t => give fuel t (.found record)
          return .ofInt 1

/-- Calls a function that the report defines. -/
def call : (fuel : Nat) → Bytes → List Expr → Reporting Value
  | 0, _, _ => return .unset
  | fuel + 1, name, args => do
    match (← get).functions.find? (·.name = name) with
    | none => fault (.ofText "line 1: function " ++ name ++ .ofText " never defined")
    | some f =>
      let own ← given fuel f.parameters args
      let before := (← get).locals
      modify fun s => { s with locals := own, calls := s.calls + 1 }
      let result : Value ← try
          follow fuel f.body
          pure .unset
        catch
          | .gave v => pure v
          | stop => throw stop
      let after := (← get).locals
      modify fun s => { s with locals := before }
      for (x, e) in f.parameters.zip args do
        match e, after.lookup x with
        | .target (.variable y), some (.table own) =>
          if (before.lookup y) matches some (.open _) then
            modify fun s => { s with locals := put y (.table own) s.locals }
        | _, _ => pure ()
      return result

/-- What the parameters of a function stand for. -/
def given : (fuel : Nat) → List Bytes → List Expr → Reporting (List (Bytes × Local))
  | 0, _, _ => return []
  | _, [], _ => return []
  | fuel + 1, x :: names, args => do
    let s ← get
    let fresh := x ++ .ofText ("@" ++ toString s.calls ++ "." ++ toString names.length)
    let own : Local ← match args.head? with
      | none => pure (.open fresh)
      | some (.target (.variable y)) =>
        match s.locals.lookup y with
        | some (.value v) => pure (.value v)
        | some other => pure other
        | none =>
          if (s.tables.lookup y).isSome then pure (.table y)
          else if (s.globals.lookup y).isSome || y = countName then pure (.value (← value y))
          else pure (.open y)
      | some e => pure (.value (← evaluate fuel e))
    return (x, own) :: (← given fuel names args.tail)

/-- Calls a function of the language. -/
def builtin : (fuel : Nat) → Function → List Expr → Reporting Value
  | 0, _, _ => return .unset
  | fuel + 1, f, args => do
    match f, args with
    | .length, [.target (.variable name)] =>
      let s ← get
      let isTable := match s.locals.lookup name with
        | some (.table _) => true
        | some _ => false
        | none => (s.tables.lookup name).isSome
      if isTable then return .ofInt (← entries name).length
      else return .ofInt (← text (← value name)).length
    | .length, args =>
      let v ← match args with
        | [] => pure (.found (← get).record)
        | e :: _ => evaluate fuel e
      return .ofInt (← text v).length
    | .split, e :: .target (.variable table) :: rest =>
      let b ← text (← evaluate fuel e)
      let separator : Separator ← match rest with
        | [] => pure (← get).separator
        | .pattern r :: _ => pure (.pattern r)
        | e :: _ => pure (.ofBytes (← text (← evaluate fuel e)))
      let parts := separator.split b
      setEntries table (((List.range parts.length).zip parts).map fun (i, part) =>
        (Bytes.ofText (toString (i + 1)), .found part))
      return .ofInt parts.length
    | .sub, r :: e :: rest => replace fuel false r e rest
    | .gsub, r :: e :: rest => replace fuel true r e rest
    | .find, e :: r :: _ =>
      let b ← text (← evaluate fuel e)
      let r ← regex fuel r
      let (start, length) : Int × Int := match r.match? b with
        | some m => (m.front.length + 1, m.text.length)
        | none => (0, -1)
      setValue (.ofText "RSTART") (.ofInt start)
      setValue (.ofText "RLENGTH") (.ofInt length)
      return .ofInt start
    | f, args =>
      let values ← evaluateAll fuel args
      let first := values.headD .unset
      match f, values with
      | .substr, v :: n :: rest =>
        return .text (part (← text v) n.toNumber ((rest.head?).map Value.toNumber))
      | .index, v :: w :: _ =>
        let (b, c) := (← text v, ← text w)
        let place := (List.range (b.length + 1)).find? fun i => c.isPrefixOf (b.drop i)
        return .ofInt ((place.map fun i => (i : Int) + 1).getD 0)
      | .sprintf, v :: rest => return .text (← format "sprintf" false (← text v) rest)
      | .lower, v :: _ =>
        return .text ((← text v).map fun b => if ascii 'A' ≤ b && b ≤ ascii 'Z' then b + 32 else b)
      | .upper, v :: _ =>
        return .text ((← text v).map fun b => if ascii 'a' ≤ b && b ≤ ascii 'z' then b - 32 else b)
      | .angle, v :: w :: _ =>
        return .number (.viaMachine₂ Float.atan2 v.toNumber w.toNumber)
      | .close, v :: _ =>
        let path ← text v
        let s ← get
        let isOpen := s.printed.contains path || (s.files.lookup path).isSome
        set { s with
          printed := s.printed.filter (· != path)
          files := s.files.filter (·.1 != path) }
        return .ofInt (if isOpen then 0 else -1)
      | f, _ =>
        match numeric? f with
        | some g => return .number (g first.toNumber)
        | none => return .ofInt 0

/-- Replaces matches in the record or in something else, and gives their number. -/
def replace : (fuel : Nat) → (isGlobal : Bool) → Expr → Expr → List Expr → Reporting Value
  | 0, _, _, _, _ => return .unset
  | fuel + 1, isGlobal, r, e, rest => do
    let r ← regex fuel r
    let by_ ← text (← evaluate fuel e)
    let t : Target := match rest with
      | .target t :: _ => t
      | _ => .field (.number .zero)
    let b ← text (← valueOf fuel t)
    let (result, n) := replaceMatches r isGlobal by_ (2 * b.length + 2) none false b
    if n != 0 then give fuel t (.text result)
    return .ofInt n

/-- Follows a statement. -/
def follow : (fuel : Nat) → Statement → Reporting Unit
  | 0, _ => throw (.ended none)
  | fuel + 1, s => do
    match s with
    | .evaluate e => let _ ← evaluate fuel e
    | .print args aim =>
      let values ← evaluateAll fuel args
      let s ← get
      let shown (v : Value) : Bytes := v.toText (s.textOf "OFMT")
      let row := if args.isEmpty then s.record else (s.textOf "OFS").intercalate (values.map shown)
      printAt fuel aim (row ++ s.textOf "ORS")
    | .printf args aim =>
      match ← evaluateAll fuel args with
      | [] => return ()
      | v :: rest => printAt fuel aim (← format "printf" true (← text v) rest)
    | .block l => followAll fuel l
    | .choose c yes no =>
      if (← evaluate fuel c).isTrue then follow fuel yes
      else match no with
        | some no => follow fuel no
        | none => return ()
    | .loop c body => loop fuel (some c) none body
    | .loopOnce body c =>
      if ← turn fuel body then loop fuel (some c) none body
    | .loopWith first c step body =>
      match first with
      | some first => follow fuel first
      | none => pure ()
      loop fuel c step body
    | .forEach name table body => forKeys fuel name ((← entries table).map (·.1)) body
    | .erase table [] => setEntries table []
    | .erase table subscripts =>
      let key ← subscript fuel subscripts
      setEntries table ((← entries table).filter (·.1 != key))
    | .next => throw .next
    | .stop none => throw (.ended none)
    | .stop (some e) =>
      let n := ((← evaluate fuel e).toNumber.truncated?).getD 0
      throw (.ended (some (n % 256).toNat))
    | .give none => throw (.gave .unset)
    | .give (some e) => throw (.gave (← evaluate fuel e))
    | .leave => throw .left
    | .again => throw .again

/-- Prints bytes where a statement prints to. -/
def printAt : (fuel : Nat) → Aim → Bytes → Reporting Unit
  | 0, _, _ => return ()
  | fuel + 1, aim, b => do
    match aim with
    | .output => modify fun s => { s with out := s.out ++ b }
    | .file e behind => printTo (← text (← evaluate fuel e)) behind b

/-- Follows statements one after the other. -/
def followAll : (fuel : Nat) → List Statement → Reporting Unit
  | 0, _ => throw (.ended none)
  | _, [] => return ()
  | fuel + 1, s :: rest => do
    follow fuel s
    followAll fuel rest

/-- Follows the body of a loop once; whether the loop goes on. -/
def turn : (fuel : Nat) → Statement → Reporting Bool
  | 0, _ => return false
  | fuel + 1, body => do
    try
      follow fuel body
      return true
    catch
      | .left => return false
      | .again => return true
      | stop => throw stop

/-- Follows a loop as long as its condition holds. -/
def loop : (fuel : Nat) → Option Expr → Option Statement → Statement → Reporting Unit
  | 0, _, _, _ => throw (.ended none)
  | fuel + 1, c, step, body => do
    let holds ← match c with
      | some c => (·.isTrue) <$> evaluate fuel c
      | none => pure true
    if holds then
      if ← turn fuel body then
        match step with
        | some step => follow fuel step
        | none => pure ()
        loop fuel c step body

/-- Follows a body for keys one after the other. -/
def forKeys : (fuel : Nat) → Bytes → List Bytes → Statement → Reporting Unit
  | 0, _, _, _ => throw (.ended none)
  | _, _, [], _ => return ()
  | fuel + 1, name, key :: rest, body => do
    setValue name (.found key)
    if ← turn fuel body then forKeys fuel name rest body

end

/-! ### Rules -/

/-- How deep statements may lie in each other, and how often loops may run. -/
def maxDepth : Nat := 200000

/-- Follows the statement of a rule; without one, prints the record. -/
def act (rule : Rule) : Reporting Unit :=
  follow maxDepth (rule.action.getD (.print [] .output))

/-- Whether a rule, by its number, is for the record at hand. -/
def applies (number : Nat) (rule : Rule) : Reporting Bool := do
  match rule.occasion with
  | .atStart | .atEnd => return false
  | .always => return true
  | .on e => return (← evaluate maxDepth e).isTrue
  | .span first last =>
    let isOpen := (← get).ranges.contains number
    let isIn ← if isOpen then pure true else (·.isTrue) <$> evaluate maxDepth first
    if !isIn then return false
    else
      let closes := (← evaluate maxDepth last).isTrue
      modify fun s => { s with
        ranges := if closes then s.ranges.filter (· != number)
          else if isOpen then s.ranges else number :: s.ranges }
      return true

/-- Follows the rules for the record at hand. -/
def actOnRecord (rules : List Rule) : Reporting Unit := do
  try
    for (number, rule) in (List.range rules.length).zip rules do
      if ← applies number rule then act rule
  catch
    | .next => return ()
    | stop => throw stop

/-- Takes the records one after the other. -/
def actOnAll (rules : List Rule) : (fuel : Nat) → Reporting Unit
  | 0 => return ()
  | fuel + 1 => do
    match ← nextRecord? (← get).sources with
    | none => return ()
    | some b =>
      modify fun s => s.withRecord b
      actOnRecord rules
      actOnAll rules fuel

/-- Carries out all rules, and gives the status. -/
def actAll (rules : List Rule) : Reporting Nat := do
  let isAtStart (r : Rule) : Bool := r.occasion matches .atStart
  let isAtEnd (r : Rule) : Bool := r.occasion matches .atEnd
  let ended (act : Reporting Unit) : Reporting (Bool × Nat) := do
    try
      act
      return (false, 0)
    catch
      | .ended status => return (true, status.getD 0)
      | stop => throw stop
  let (isOver, status) ← ended do
    for rule in rules.filter isAtStart do act rule
    if rules.any (!isAtStart ·) then actOnAll rules 1000000
  let (isLast, own) ← ended do
    for rule in rules.filter isAtEnd do act rule
  return if isLast && (own != 0 || !isOver) then own else status

end Reporter

/-- The options of a report among words: separators and variables that are given, the files of the
report, and the words that are left; or an option that is none. -/
def reportOptions : (fuel : Nat) → List Bytes → Except Bytes (List (UInt8 × Bytes) × List Bytes)
  | 0, words => .ok ([], words)
  | _, [] => .ok ([], [])
  | fuel + 1, w :: rest => do
    let valued (letter : UInt8) (value : Bytes) (rest : List Bytes) :
        Except Bytes (List (UInt8 × Bytes) × List Bytes) := do
      let (given, words) ← reportOptions fuel rest
      return ((letter, value) :: given, words)
    match w with
    | 0x2D :: letter :: value =>
      if w = .ofText "--" then return ([], rest)
      else if !(Bytes.ofText "Fvf").contains letter then .error w
      else match value, rest with
        | [], [] => .error w
        | [], v :: rest => valued letter v rest
        | value, rest => valued letter value rest
    | _ => return ([], w :: rest)

/-- Makes a report on its input or on files. -/
def reportOn (g : Given) : Effect :=
  let g := { g with called := ((components g.called).getLast?).getD g.called }
  match reportOptions (g.args.length + 1) g.args with
  | .error w => g.refused 2 (.ofText "not an option: " ++ w)
  | .ok (given, words) =>
    let of (letter : Char) : List Bytes :=
      (given.filter fun x => x.1 = ascii letter).map (·.2)
    let missing := (of 'f').find? fun f => !isInput f && (g.files.content? f).isNone
    match (of 'v').find? fun w => (Reporter.assignment? w).isNone, missing with
    | some w, _ => g.refused 2 (.ofText "improper assignment: -v " ++ w)
    | none, some f =>
      g.refused 2 (.ofText "cannot open \"" ++ f ++ .ofText "\" (No such file or directory)")
    | none, none =>
      let fromFiles := (of 'f').map fun f =>
        if isInput f then g.inputUnder f g.stdin else (g.files.content? f).getD []
      let (text, words) : Bytes × List Bytes :=
        if fromFiles.isEmpty then (words.headD [], words.tail)
        else ([0x0A].intercalate fromFiles, words)
      match Report.ofBytes text with
      | .error complaint => g.refused 2 complaint
      | .ok report =>
        let named (name : String) (v : Value) : Bytes × Value := (.ofText name, v)
        let separators := (of 'F').map fun b =>
          named "FS" (.text (unescapedText b.length b))
        let start : List (Bytes × Value) := [
          named "FS" (.text [0x20]), named "OFS" (.text [0x20]), named "RS" (.text [0x0A]),
          named "ORS" (.text [0x0A]), named "SUBSEP" (.text [0x1C]),
          named "CONVFMT" (.text (.ofText "%.6g")), named "OFMT" (.text (.ofText "%.6g")),
          named "NR" (.ofInt 0), named "FNR" (.ofInt 0), named "FILENAME" (.text []),
          named "RSTART" (.ofInt 0), named "RLENGTH" (.ofInt (-1)),
          named "ARGC" (.ofInt (words.length + 1))]
        let globals := (separators ++ (of 'v').filterMap Reporter.assignment?).foldl
          (fun l (name, v) => Reporter.put name v l) start
        let numbered := ((List.range (words.length + 1)).zip (g.called :: words)).map
          fun (i, w) => (Bytes.ofText (toString i), Value.found w)
        let s : Reporter := {
          called := g.called
          functions := report.functions
          globals := globals
          tables := [
            (.ofText "ENVIRON", g.env.map fun (name, v) => (name, Value.found v)),
            (.ofText "ARGV", numbered)]
          locals := [], calls := 0, record := [], fields := []
          source := none, words := words, hasRead := false, files := [], printed := []
          ranges := [], stdin := g.leftBy (of 'f'), out := [], stderr := [], system := g.files }
        let (result, s) := ((Reporter.actAll report.rules).run).run s
        let (status, complaint) : Nat × Bytes := match result with
          | .ok status => (status, [])
          | .error (.fault complaint) => (2, complaintOf g.called complaint)
          | .error _ => (2, [])
        ⟨status, s.out, s.stderr ++ complaint, s.stdin, s.system⟩

end BuildDispatch.Host.Programs
