import BuildDispatch.Toml.QuotedText

/-!
Keys: bare, or quoted as strings of one line, and joined by dots into paths.
-/

namespace BuildDispatch.Toml

/-- The path of a dotted key: the tables to pass through, and the name in the last of them. -/
structure KeyPath where
  tables : List String
  name : String
  deriving Repr, DecidableEq

namespace KeyPath

/-- Letters, digits, underscore and dash of ASCII. -/
def isBare (c : Char) : Bool := c.isAlphanum || c == '_' || c == '-'

/-- One part of a key. -/
def readPart : Reader String
  | '"' :: r => QuotedText.readShort ('"' :: r)
  | '\'' :: r => QuotedText.readShort ('\'' :: r)
  | s =>
    let bare := s.takeWhile isBare
    if bare.isEmpty then none else some (.ofList bare, s.dropWhile isBare)

/-- The parts of a dotted key, with blanks around each. -/
def readParts : (fuel : Nat) → Reader (List String)
  | 0, _ => none
  | fuel + 1, s => do
    let (part, r) ← readPart (skipBlanks s)
    match skipBlanks r with
    | '.' :: r =>
      let (parts, r) ← readParts fuel r
      some (part :: parts, r)
    | r => some ([part], r)

/-- The greatest number of parts of a key. -/
def maxParts : Nat := 79

/-- A path of several parts. -/
def ofParts? (parts : List String) : Option KeyPath :=
  match parts.reverse with
  | [] => none
  | name :: tables => if parts.length ≤ maxParts then some ⟨tables.reverse, name⟩ else none

/-- A dotted key. -/
def read : Reader KeyPath := fun s => do
  let (parts, r) ← readParts s.length s
  let path ← ofParts? parts
  some (path, r)

end KeyPath

end BuildDispatch.Toml
