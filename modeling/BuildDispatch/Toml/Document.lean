import BuildDispatch.Toml.Value.Reader

/-!
TOML documents: lines that are headers or pairs of a key and a value, and the table they build up
when taken in order.
-/

namespace BuildDispatch.Toml

/-- What a line of a document says. -/
inductive Statement where
  /-- A key with its value, for the table opened last. -/
  | pair (key : KeyPath) (value : Value)
  /-- A header of a table. -/
  | table (key : KeyPath)
  /-- A header of another table in a run. -/
  | element (key : KeyPath)
  deriving Repr

/-- The statement on a line that is not blank, up to the end of the line. -/
def Statement.read : Reader Statement
  | '[' :: '[' :: r => do
    let (key, r) ← KeyPath.read r
    let r ← literally [']', ']'] r
    let r ← lineEnd? r
    some (.element key, r)
  | '[' :: r => do
    let (key, r) ← KeyPath.read r
    let r ← literally [']'] r
    let r ← lineEnd? r
    some (.table key, r)
  | s => do
    let ((key, value), r) ← Value.readPair (Value.read Value.maxDepth) s
    let r ← lineEnd? r
    some (.pair key value, r)

/-- The statements of a text, blank lines and comments left out. -/
def Statement.readAll : (fuel : Nat) → List Char → Option (List Statement)
  | 0, _ => none
  | fuel + 1, s =>
    match skipBlanks s with
    | [] => some []
    | s =>
      match lineEnd? s with
      | some r => Statement.readAll fuel r
      | none => do
        let (first, r) ← Statement.read s
        let more ← Statement.readAll fuel r
        some (first :: more)

/-- A document under construction: its root, and the path of the table opened last. -/
structure Draft where
  root : Fields
  current : List String
  deriving Repr

namespace Draft

/-- The beginning of a document. -/
def empty : Draft := ⟨[], []⟩

/-- Takes in one more statement. -/
def add (d : Draft) : Statement → Option Draft
  | .pair key value => do
    let root ← Fields.changeAt .passedByHeader (Fields.assign key value) d.current .header d.root
    some { d with root }
  | .table key => do
    let root ← Fields.openTable key d.root
    some ⟨root, key.tables ++ [key.name]⟩
  | .element key => do
    let root ← Fields.openElement key d.root
    some ⟨root, key.tables ++ [key.name]⟩

end Draft

/-- The table that statements build up, taken in order. -/
def Entries.ofStatements? (l : List Statement) : Option Entries := do
  let draft ← l.foldlM Draft.add Draft.empty
  some (Fields.entries draft.root)

/-- The text without a byte order mark at its front. -/
def skipByteOrderMark : List Char → List Char
  | '\uFEFF' :: r => r
  | s => s

/-- The table of a document; `none` if the text is not TOML. -/
def parse? (text : String) : Option Entries := do
  let s := skipByteOrderMark text.toList
  let l ← Statement.readAll (s.length + 1) s
  Entries.ofStatements? l

end BuildDispatch.Toml
