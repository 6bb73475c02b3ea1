import BuildDispatch.Config
import BuildDispatch.Config.SchemaError

/-!
Decoding a TOML document into a configuration.  Keys are visited in the order of the document and
the first fault is reported; keys that mean nothing are skipped.  A policy or an override may also
be an array of its fields in their fixed order, from which fields may be left off at the end.
-/

namespace BuildDispatch

open Toml

namespace Schema

/-- A value, or the first fault met. -/
abbrev Decoded (α : Type) := Except SchemaError α

/-- A string. -/
def text : Value → Decoded String
  | .string s => .ok s
  | v => .error (.invalidType v .string)

/-- A boolean. -/
def boolean : Value → Decoded Bool
  | .boolean b => .ok b
  | v => .error (.invalidType v .boolean)

/-- An array, each item decoded. -/
def sequence {α : Type} (item : Value → Decoded α) : Value → Decoded (List α)
  | .array _ items => items.mapM item
  | v => .error (.invalidType v .sequence)

/-- The entries of a value that can stand for a table.  A date counts as a table whose one key means
nothing. -/
def entries? : Value → Option Entries
  | .table entries => some entries
  | .dateTime d => some [("datetime", .string d.text)]
  | _ => none

/-- The variant of a name. -/
def named {α : Type} (variants : List (String × α)) (name : String) : Decoded α :=
  match variants.find? (·.1 == name) with
  | some (_, a) => .ok a
  | none => .error (.unknownVariant name (variants.map (·.1)))

/-- Accepts an empty array or table, which is what may stand under the name of a variant. -/
def noPayload : Value → Decoded Unit
  | .array form items =>
    if items.isEmpty then .ok () else .error (.payloadNotEmpty (.array form items))
  | .table entries => if entries.isEmpty then .ok () else .error (.payloadNotEmpty (.table entries))
  | v => .error (.payloadNotTable v)

/-- One of several names: as a string, or as the only key of a table. -/
def variant {α : Type} (variants : List (String × α)) : Value → Decoded α
  | .string name => named variants name
  | .table [] => .error .noVariant
  | .table [(name, payload)] => do
    let a ← named variants name
    noPayload payload
    return a
  | .table _ => .error .severalVariants
  | _ => .error .notAVariant

/-- A mode by its name. -/
def mode : Value → Decoded OverrideMode := variant [("append", .append), ("set", .set)]

/-- A preset by its name. -/
def preset : Value → Decoded Preset := variant (Preset.all.map fun p => (p.name, p))

/-! ### Overrides -/

/-- A decoded field of an override. -/
inductive OverrideField where
  | name (s : String)
  | value (s : String)
  | mode (m : OverrideMode)
  | unknown

namespace OverrideField

/-- Decodes the value of a key. -/
def decode : String × Value → Decoded OverrideField
  | ("name", v) => .name <$> text v
  | ("value", v) => .value <$> text v
  | ("mode", v) => .mode <$> Schema.mode v
  | _ => .ok .unknown

/-- The name that a field holds, if it does. -/
def name? : OverrideField → Option String
  | .name s => some s
  | _ => none

/-- The value that a field holds, if it does. -/
def value? : OverrideField → Option String
  | .value s => some s
  | _ => none

/-- The mode that a field holds, if it does. -/
def mode? : OverrideField → Option OverrideMode
  | .mode m => some m
  | _ => none

end OverrideField

/-- A field that must be there. -/
def required {α : Type} (name : String) : Option α → Decoded α
  | some a => .ok a
  | none => .error (.missingField name)

/-- An override from the entries of a table. -/
def overrideOfEntries (entries : Entries) : Decoded EnvOverride := do
  let fields ← entries.mapM OverrideField.decode
  let name ← required "name" (fields.findSome? OverrideField.name?)
  let value ← required "value" (fields.findSome? OverrideField.value?)
  return ⟨name, value, (fields.findSome? OverrideField.mode?).getD .append⟩

/-- An override from its fields in order; only the mode may be left off. -/
def overrideOfItems : List Value → Decoded EnvOverride
  | [] => .error (.tooShort 0)
  | [n] => do
    let _ ← text n
    .error (.tooShort 1)
  | [n, v] => return ⟨← text n, ← text v, .append⟩
  | n :: v :: m :: _ => return ⟨← text n, ← text v, ← mode m⟩

/-- An override from a table or an array. -/
def override (v : Value) : Decoded EnvOverride :=
  match v with
  | .array _ items => overrideOfItems items
  | _ =>
    match entries? v with
    | some entries => overrideOfEntries entries
    | none => .error (.invalidType v .override)

/-! ### Policies -/

/-- A decoded field of a policy. -/
inductive PolicyField where
  | env (overrides : List EnvOverride)
  | args (words : List String)
  | unknown

namespace PolicyField

/-- Decodes the value of a key. -/
def decode : String × Value → Decoded PolicyField
  | ("env", v) => .env <$> sequence override v
  | ("args", v) => .args <$> sequence text v
  | _ => .ok .unknown

/-- The overrides that a field holds, if it does. -/
def env? : PolicyField → Option (List EnvOverride)
  | .env overrides => some overrides
  | _ => none

/-- The arguments that a field holds, if it does. -/
def args? : PolicyField → Option (List String)
  | .args words => some words
  | _ => none

end PolicyField

/-- A policy from the entries of a table; both fields may be missing. -/
def policyOfEntries (entries : Entries) : Decoded ActionPolicy := do
  let fields ← entries.mapM PolicyField.decode
  return ⟨(fields.findSome? PolicyField.env?).getD [], (fields.findSome? PolicyField.args?).getD []⟩

/-- A policy from its fields in order; both may be left off. -/
def policyOfItems : List Value → Decoded ActionPolicy
  | [] => .ok .empty
  | [e] => return ⟨← sequence override e, []⟩
  | e :: a :: _ => return ⟨← sequence override e, ← sequence text a⟩

/-- A policy from a table or an array. -/
def policy (v : Value) : Decoded ActionPolicy :=
  match v with
  | .array _ items => policyOfItems items
  | _ =>
    match entries? v with
    | some entries => policyOfEntries entries
    | none => .error (.invalidType v .policy)

/-- Policies by action name. -/
def policies (v : Value) : Decoded PolicyTable :=
  match entries? v with
  | some entries => do
    let decoded ← entries.mapM fun (name, v) => return (name, ← policy v)
    return .ofList decoded
  | none => .error (.invalidType v .map)

/-! ### Configurations -/

/-- A decoded setting. -/
inductive Setting where
  | preset (p : Preset)
  | tool (s : String)
  | toolchain (s : String)
  | verbose (b : Bool)
  | actions (t : PolicyTable)
  | unknown

namespace Setting

/-- Decodes the value of a key. -/
def decode : String × Value → Decoded Setting
  | ("preset", v) => .preset <$> Schema.preset v
  | ("tool", v) => .tool <$> text v
  | ("toolchain", v) => .toolchain <$> text v
  | ("verbose", v) => .verbose <$> boolean v
  | ("actions", v) => .actions <$> policies v
  | _ => .ok .unknown

/-- The preset that a setting gives, if it does. -/
def preset? : Setting → Option Preset
  | .preset p => some p
  | _ => none

/-- The tool that a setting gives, if it does. -/
def tool? : Setting → Option String
  | .tool s => some s
  | _ => none

/-- The toolchain that a setting gives, if it does. -/
def toolchain? : Setting → Option String
  | .toolchain s => some s
  | _ => none

/-- The verbosity that a setting gives, if it does. -/
def verbose? : Setting → Option Bool
  | .verbose b => some b
  | _ => none

/-- The actions that a setting gives, if it does. -/
def actions? : Setting → Option PolicyTable
  | .actions t => some t
  | _ => none

end Setting

/-- The configuration that a document spells. -/
def config (entries : Entries) : Decoded Config := do
  let settings ← entries.mapM Setting.decode
  return {
    preset := settings.findSome? Setting.preset?
    tool := settings.findSome? Setting.tool?
    toolchain := settings.findSome? Setting.toolchain?
    verbose := (settings.findSome? Setting.verbose?).getD false
    actions := (settings.findSome? Setting.actions?).getD .empty
    source := none }

end Schema

end BuildDispatch
