import BuildDispatch.Decimal.Binary64
import BuildDispatch.Toml.DateTime

/-!
Values of a TOML document.  A table is a list of entries in the order in which the document first
mentions their keys; a document is such a list.
-/

namespace BuildDispatch.Toml

/-- How an array is written: between brackets, or as a run of table headers. -/
inductive ArrayForm where
  | brackets
  | headers
  deriving Repr, DecidableEq

/-- A TOML value. -/
inductive Value where
  | string (text : String)
  | integer (n : Int)
  | float (x : Decimal.Binary64)
  | boolean (b : Bool)
  | dateTime (d : DateTime)
  | array (form : ArrayForm) (items : List Value)
  | table (entries : List (String × Value))
  deriving Repr, Inhabited

/-- Keys with their values, in the order of their first mention. -/
abbrev Entries := List (String × Value)

/-! ### Equality

It is decided by recursion over both values, as no instance is derived for a type that occurs in
lists in itself. -/

namespace Value

mutual

/-- Whether two values are equal. -/
def same : Value → Value → Bool
  | .string s, .string t => s == t
  | .integer m, .integer n => m == n
  | .float x, .float y => x == y
  | .boolean a, .boolean b => a == b
  | .dateTime d, .dateTime e => d == e
  | .array form items, .array form' items' => form == form' && sameItems items items'
  | .table entries, .table entries' => sameEntries entries entries'
  | _, _ => false

def sameItems : List Value → List Value → Bool
  | [], [] => true
  | v :: r, w :: r' => same v w && sameItems r r'
  | _, _ => false

def sameEntries : List (String × Value) → List (String × Value) → Bool
  | [], [] => true
  | (key, v) :: r, (key', w) :: r' => key == key' && same v w && sameEntries r r'
  | _, _ => false

end

mutual

theorem same_iff : (v w : Value) → (same v w = true ↔ v = w)
  | .array form items, w => by cases w <;> simp [same, sameItems_iff items]
  | .table entries, w => by cases w <;> simp [same, sameEntries_iff entries]
  | .string s, w => by cases w <;> simp [same]
  | .integer n, w => by cases w <;> simp [same]
  | .float x, w => by cases w <;> simp [same]
  | .boolean b, w => by cases w <;> simp [same]
  | .dateTime d, w => by cases w <;> simp [same]

theorem sameItems_iff : (items items' : List Value) →
    (sameItems items items' = true ↔ items = items')
  | [], items' => by cases items' <;> simp [sameItems]
  | v :: r, items' => by
    cases items' with
    | nil => simp [sameItems]
    | cons w r' => simp [sameItems, same_iff v w, sameItems_iff r r']

theorem sameEntries_iff : (entries entries' : List (String × Value)) →
    (sameEntries entries entries' = true ↔ entries = entries')
  | [], entries' => by cases entries' <;> simp [sameEntries]
  | (key, v) :: r, entries' => by
    cases entries' with
    | nil => simp [sameEntries]
    | cons e r' => simp [sameEntries, Prod.ext_iff, same_iff v e.2, sameEntries_iff r r']

end

instance : DecidableEq Value := fun v w => decidable_of_iff (same v w = true) (same_iff v w)

end Value

end BuildDispatch.Toml
