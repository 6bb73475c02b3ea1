import BuildDispatch.Config
import BuildDispatch.Text.Quoted

/-!
Configurations that can be used: a tool with a name, named actions, and overrides that an
environment can hold.  `violation?` finds the first rule that is broken, the tool before the
actions, these in bytewise order, and in each the overrides in theirs.
-/

namespace BuildDispatch

/-- A broken rule. -/
inductive Violation where
  | emptyTool
  | emptyAction
  | badName (action name : String)
  | nulInValue (action name : String)
  deriving Repr, DecidableEq

namespace Violation

/-- The wording of a broken rule. -/
def message : Violation → String
  | .emptyTool => "`tool` must not be empty"
  | .emptyAction => "[actions] entry with an empty action name"
  | .badName action name =>
    "actions." ++ action ++ ": invalid environment variable name " ++ Text.Quoted.ofText name
  | .nulInValue action name =>
    "actions." ++ action ++ ": value of " ++ name ++ " contains a NUL byte"

end Violation

/-- A character that no name of a variable may contain. -/
def isForbiddenInName (c : Char) : Bool := c == '=' || c == '\x00'

namespace EnvOverride

/-- The rule that an override of an action breaks. -/
def violation? (action : String) (o : EnvOverride) : Option Violation :=
  if o.name.isEmpty || o.name.toList.any isForbiddenInName then some (.badName action o.name)
  else if o.value.toList.contains '\x00' then some (.nulInValue action o.name)
  else none

end EnvOverride

namespace Config

/-- The first rule that an entry of the configuration breaks. -/
def entryViolation? (entry : String × ActionPolicy) : Option Violation :=
  if entry.1.isEmpty then some .emptyAction
  else entry.2.env.findSome? (EnvOverride.violation? entry.1)

/-- The first rule that a configuration breaks. -/
def violation? (c : Config) : Option Violation :=
  if c.tool = some "" then some .emptyTool
  else c.actions.entries.findSome? entryViolation?

end Config

end BuildDispatch
