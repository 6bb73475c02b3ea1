import BuildDispatch.Toml.DateTime.Reader
import BuildDispatch.Toml.Number
import BuildDispatch.Toml.Tree

/-!
Reading values.  Arrays and inline tables nest; `room` counts how many more levels may be opened,
so the reader recurses on it and takes the reader of the inner values as an argument.
-/

namespace BuildDispatch.Toml

namespace Value

/-- `true` or `false`. -/
def readBoolean : Reader Value
  | 't' :: 'r' :: 'u' :: 'e' :: r => some (.boolean true, r)
  | 'f' :: 'a' :: 'l' :: 's' :: 'e' :: r => some (.boolean false, r)
  | _ => none

/-- A value that begins with a sign or a digit. -/
def readNumeric (s : List Char) : Option (Value × List Char) :=
  match DateTime.read s with
  | some (d, r) => some (.dateTime d, r)
  | none =>
    match Number.readDecimal s with
    | some result => some result
    | none =>
      match Number.readSpecial s with
      | some result => some result
      | none => Number.readInteger s

/-- A value without other values in it. -/
def readScalar : Reader Value
  | [] => none
  | c :: r =>
    if c = '"' || c = '\'' then (QuotedText.read (c :: r)).map fun (text, r) => (.string text, r)
    else if c = 't' || c = 'f' then readBoolean (c :: r)
    else if c = 'i' || c = 'n' then Number.readSpecial (c :: r)
    else if c = '+' || c = '-' || c.isDigit then readNumeric (c :: r)
    else none

/-- The items of an array and its closing bracket.  The last item may be followed by a comma. -/
def readItems (item : Reader Value) : (fuel : Nat) → Reader (List Value)
  | 0, _ => none
  | fuel + 1, s =>
    match skipLayout s with
    | ']' :: r => some ([], r)
    | s => do
      let (value, r) ← item s
      match skipLayout r with
      | ',' :: r =>
        let (values, r) ← readItems item fuel r
        some (value :: values, r)
      | ']' :: r => some ([value], r)
      | _ => none

/-- A key, an equals sign and a value. -/
def readPair (item : Reader Value) : Reader (KeyPath × Value) := fun s => do
  let (key, r) ← KeyPath.read s
  let r ← literally ['='] r
  let (value, r) ← item (skipBlanks r)
  some ((key, value), r)

/-- The pairs of an inline table and its closing brace. -/
def readPairs (item : Reader Value) : (fuel : Nat) → Reader (List (KeyPath × Value))
  | 0, _ => none
  | fuel + 1, s => do
    let (pair, r) ← readPair item s
    match skipBlanks r with
    | ',' :: r =>
      let (pairs, r) ← readPairs item fuel r
      some (pair :: pairs, r)
    | '\x7d' :: r => some ([pair], r)
    | _ => none

/-- The table with these pairs, unless two of them are at odds. -/
def ofPairs? (pairs : List (KeyPath × Value)) : Option Value := do
  let fields ← pairs.foldlM (fun fields (key, value) => Fields.assign key value .header fields) []
  some (.table (Fields.entries fields))

/-- An inline table after its opening brace. -/
def readInline (item : Reader Value) : Reader Value := fun s =>
  match skipBlanks s with
  | '\x7d' :: r => some (.table [], r)
  | s => do
    let (pairs, r) ← readPairs item s.length s
    let table ← ofPairs? pairs
    some (table, r)

/-- A value in which arrays and inline tables are nested at most `room` deep. -/
def read : (room : Nat) → Reader Value
  | room + 1, '[' :: r =>
    (readItems (read room) r.length r).map fun (items, r) => (.array .brackets items, r)
  | room + 1, '\x7b' :: r => readInline (read room) r
  | _, s => readScalar s

/-- The greatest depth to which arrays and inline tables may be nested. -/
def maxDepth : Nat := 79

end Value

end BuildDispatch.Toml
