import BuildDispatch.Toml.KeyPath
import BuildDispatch.Toml.Value

/-!
The tree of tables that grows while a document is read.  Each table remembers how it came about,
since that decides who may extend it: a table made in passing by a header may get a header of its
own, one made in passing by a dotted key may only grow by dotted keys, and one with a header or an
inline table is closed to dotted keys from elsewhere.
-/

namespace BuildDispatch.Toml

/-- How a table came about. -/
inductive Origin where
  /-- By a header of its own. -/
  | header
  /-- In passing, by a header for a table inside it. -/
  | passedByHeader
  /-- In passing, by a dotted key. -/
  | passedByKey
  deriving Repr, DecidableEq

/-- A finished value, a table that may still grow, or a run of tables of one name. -/
inductive Node where
  | leaf (value : Value)
  | table (origin : Origin) (fields : List (String × Node))
  | tables (elements : List (List (String × Node)))
  deriving Repr, Inhabited

/-- Named nodes in the order of their first mention. -/
abbrev Fields := List (String × Node)

namespace Fields

/-- The node of a name. -/
def find? (name : String) : Fields → Option Node
  | [] => none
  | (other, node) :: r => if other = name then some node else find? name r

/-- Puts a node in the place of the one with its name, or at the end. -/
def put (name : String) (node : Node) : Fields → Fields
  | [] => [(name, node)]
  | (other, old) :: r =>
    if other = name then (name, node) :: r else (other, old) :: put name node r

/-- The fields without one name. -/
def erase (name : String) (fields : Fields) : Fields := fields.filter fun e => e.1 != name

/-- Changes the last element of a list, if there is one. -/
def changeLast? {α : Type} (f : α → Option α) : List α → Option (List α)
  | [] => none
  | [a] => (f a).map fun b => [b]
  | a :: r => (changeLast? f r).map (a :: ·)

/-- Changes the table at the end of a path, which starts at a table of the given origin.  Missing
tables are made, with the origin `made`; of a run of tables the last is entered.  Fails at a value,
and, on the way of a dotted key, at a table with a header. -/
def changeAt (made : Origin) (change : Origin → Fields → Option Fields) :
    List String → Origin → Fields → Option Fields
  | [], origin, fields => change origin fields
  | name :: path, _, fields =>
    match fields.find? name with
    | none => do
      let inner ← changeAt made change path made []
      some (fields.put name (.table made inner))
    | some (.leaf _) => none
    | some (.tables elements) => do
      let elements ← changeLast? (changeAt made change path .header) elements
      some (fields.put name (.tables elements))
    | some (.table origin inner) =>
      if made = .passedByKey && origin = .header then none
      else do
        let inner ← changeAt made change path origin inner
        some (fields.put name (.table origin inner))

/-- Adds a value under a dotted key to a table.  The table reached must be one made by dotted keys,
unless the key has no dots, and then it must not be. -/
def assign (key : KeyPath) (value : Value) : Origin → Fields → Option Fields :=
  changeAt .passedByKey
    (fun origin fields =>
      if decide (origin = .passedByKey) == key.tables.isEmpty then none
      else if (fields.find? key.name).isSome then none
      else some (fields.put key.name (.leaf value)))
    key.tables

/-- Opens the table of a header.  It must be new, or made in passing by headers; then it moves to
the end of its parent. -/
def openTable (key : KeyPath) (root : Fields) : Option Fields :=
  changeAt .passedByHeader
    (fun _ fields =>
      match fields.find? key.name with
      | none => some (fields.put key.name (.table .header []))
      | some (.table .passedByHeader inner) =>
        some ((fields.erase key.name).put key.name (.table .header inner))
      | some _ => none)
    key.tables .header root

/-- Opens another table of a run of tables. -/
def openElement (key : KeyPath) (root : Fields) : Option Fields :=
  changeAt .passedByHeader
    (fun _ fields =>
      match fields.find? key.name with
      | none => some (fields.put key.name (.tables [[]]))
      | some (.tables elements) => some (fields.put key.name (.tables (elements ++ [[]])))
      | some _ => none)
    key.tables .header root

end Fields

mutual

/-- The value that a node stands for when nothing more is to come. -/
def Node.value : Node → Value
  | .leaf value => value
  | .table _ fields => .table (Fields.entries fields)
  | .tables elements => .array .headers (Node.elementValues elements)

/-- The entries of a finished table. -/
def Fields.entries : List (String × Node) → List (String × Value)
  | [] => []
  | (name, node) :: r => (name, node.value) :: Fields.entries r

/-- The tables of a finished run. -/
def Node.elementValues : List (List (String × Node)) → List Value
  | [] => []
  | fields :: r => .table (Fields.entries fields) :: Node.elementValues r

end

end BuildDispatch.Toml
