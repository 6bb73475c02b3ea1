import BuildDispatch.Decimal.Shortest
import BuildDispatch.Text.Quoted
import BuildDispatch.Toml.Value

/-!
What can be wrong with a TOML document of the wrong shape, and how it is worded.
-/

namespace BuildDispatch

open Toml

/-- What a field of a configuration has to be. -/
inductive Wanted where
  | string
  | boolean
  | sequence
  | map
  | policy
  | override
  deriving Repr, DecidableEq

/-- How an error names what was wanted. -/
def Wanted.text : Wanted → String
  | .string => "a string"
  | .boolean => "a boolean"
  | .sequence => "a sequence"
  | .map => "a map"
  | .policy => "struct ActionPolicy"
  | .override => "struct EnvOverride"

/-- A value as an error shows it. -/
def describe : Value → String
  | .string text => "string " ++ Text.Quoted.ofText text
  | .integer n => "integer `" ++ toString n ++ "`"
  | .float x => "floating point `" ++ x.text ++ "`"
  | .boolean b => "boolean `" ++ (if b then "true" else "false") ++ "`"
  | .dateTime _ => "map"
  | .array _ _ => "sequence"
  | .table _ => "map"

/-- The kind of a value that is neither an array nor a table. -/
def kindName : Value → String
  | .string _ => "string"
  | .integer _ => "integer"
  | .float _ => "float"
  | .boolean _ => "boolean"
  | .dateTime _ => "datetime"
  | .array _ _ => "array"
  | .table _ => "table"

/-- Why a document does not have the shape of a configuration. -/
inductive SchemaError where
  | invalidType (found : Value) (wanted : Wanted)
  | missingField (name : String)
  /-- An array in place of a structure has too few elements. -/
  | tooShort (length : Nat)
  | unknownVariant (name : String) (expected : List String)
  /-- Neither a string nor a table names a variant. -/
  | notAVariant
  /-- A table that should name one variant has no key. -/
  | noVariant
  /-- A table that should name one variant has several keys. -/
  | severalVariants
  /-- The value under the name of a variant is an array or a table with something in it. -/
  | payloadNotEmpty (payload : Value)
  /-- The value under the name of a variant is neither an array nor a table. -/
  | payloadNotTable (payload : Value)
  deriving Repr

namespace SchemaError

/-- The names that could have stood, for an error. -/
def expectation (names : List String) : String :=
  let quoted := names.map fun name => "`" ++ name ++ "`"
  match quoted with
  | [a, b] => a ++ " or " ++ b
  | _ => "one of " ++ ", ".intercalate quoted

/-- The wording of an error. -/
def message : SchemaError → String
  | .invalidType found wanted =>
    "invalid type: " ++ describe found ++ ", expected " ++ wanted.text
  | .missingField name => "missing field `" ++ name ++ "`"
  | .tooShort length =>
    "invalid length " ++ toString length ++ ", expected struct EnvOverride with 3 elements"
  | .unknownVariant name expected =>
    "unknown variant `" ++ name ++ "`, expected " ++ expectation expected
  | .notAVariant => "wanted string or table"
  | .noVariant => "wanted exactly 1 element, found 0 elements"
  | .severalVariants => "wanted exactly 1 element, more than 1 element"
  | .payloadNotEmpty (.array .headers _) => "expected empty array"
  | .payloadNotEmpty _ => "expected empty table"
  | .payloadNotTable payload => "expected table, found " ++ kindName payload

end SchemaError

end BuildDispatch
