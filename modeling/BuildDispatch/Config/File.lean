import BuildDispatch.Config.Schema
import BuildDispatch.Config.Validity
import BuildDispatch.OsError
import BuildDispatch.Toml.Document

/-!
Configurations from texts and from files.  A file that does not exist gives the defaults; one that
exists is never ignored.
-/

namespace BuildDispatch

/-- Why a text is no usable configuration. -/
inductive ConfigError where
  | notToml
  | wrongShape (e : SchemaError)
  | invalid (v : Violation)
  deriving Repr

/-- The wording of what is wrong with a text. -/
def ConfigError.message : ConfigError → String
  | .notToml => "TOML syntax error"
  | .wrongShape e => e.message
  | .invalid v => v.message

/-- What a path leads to. -/
inductive FileState where
  | absent
  | unreadable (e : OsError)
  | holds (content : Bytes)
  deriving Repr, DecidableEq

/-- Why a configuration file cannot be used. -/
inductive LoadError where
  | read (path : String) (e : OsError)
  | parse (path : String) (e : ConfigError)
  deriving Repr

namespace Config

/-- The configuration that a text spells. -/
def parse (text : String) : Except ConfigError Config :=
  match Toml.parse? text with
  | none => .error .notToml
  | some entries =>
    match Schema.config entries with
    | .error e => .error (.wrongShape e)
    | .ok c =>
      match c.violation? with
      | some v => .error (.invalid v)
      | none => .ok c

/-- The configuration in a file, with the file as its source. -/
def load (path : String) : FileState → Except LoadError Config
  | .absent => .ok default
  | .unreadable e => .error (.read path e)
  | .holds content =>
    match content.text? with
    | none => .error (.read path .notText)
    | some text =>
      match parse text with
      | .error e => .error (.parse path e)
      | .ok c => .ok { c with source := some path }

end Config

end BuildDispatch
