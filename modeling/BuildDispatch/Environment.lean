import BuildDispatch.SortedMap

/-!
Environments of processes and the overrides that a policy applies to them.  `merge` applies a list
of overrides in order to a copy of the inherited environment.  A process is handed its environment
as a block of strings, in which a name may be set more than once.
-/

namespace BuildDispatch

/-- The variables of a process. -/
abbrev Environment := SortedMap Bytes Bytes

/-- The strings that a process is handed as its environment, in their order.  A string with an
equals sign behind its first byte sets a variable. -/
structure EnvironmentBlock where
  strings : List Bytes
  deriving Repr, DecidableEq

/-- How an override combines with a value that is already there. -/
inductive OverrideMode where
  /-- Extends the present value after one space; an absent variable counts as empty. -/
  | append
  /-- Replaces whatever was there. -/
  | set
  deriving Repr, DecidableEq, Inhabited

/-- One environment variable touched by a policy. -/
structure EnvOverride where
  name : String
  value : String
  mode : OverrideMode
  deriving Repr, DecidableEq

namespace EnvOverride

/-- The name as an environment spells it. -/
def key (o : EnvOverride) : Bytes := .ofText o.name

/-- The value of the variable after the override, from its value before. -/
def result (o : EnvOverride) (before : Option Bytes) : Bytes :=
  match o.mode, before with
  | .append, some (b :: r) => b :: r ++ .ofText " " ++ .ofText o.value
  | _, _ => .ofText o.value

end EnvOverride

namespace EnvironmentBlock

/-- What a string has behind a name and an equals sign, if it begins with them. -/
def valueBehind? (name string : Bytes) : Option Bytes :=
  let front := name ++ [0x3D]
  if front.isPrefixOf string then some (string.drop front.length) else none

/-- The value that is found under a name: the first string that sets it counts. -/
def value? (block : EnvironmentBlock) (name : Bytes) : Option Bytes :=
  block.strings.findSome? (valueBehind? name)

/-- The variable that a string sets.  Its name goes up to the first equals sign behind the first
byte; a string without one sets nothing. -/
def binding? : Bytes → Option (Bytes × Bytes)
  | [] => none
  | b :: r =>
    let isInName (x : UInt8) : Bool := x != 0x3D
    match r.dropWhile isInName with
    | [] => none
    | _ :: value => some (b :: r.takeWhile isInName, value)

/-- All variables that a block sets; the last string that sets a name counts. -/
def environment (block : EnvironmentBlock) : Environment :=
  .ofList (block.strings.filterMap binding?)

end EnvironmentBlock

namespace Environment

/-- The block that a process with this environment is handed. -/
def block (env : Environment) : EnvironmentBlock :=
  ⟨env.entries.map fun (name, value) => name ++ 0x3D :: value⟩

/-- The environment after one override. -/
def apply (env : Environment) (o : EnvOverride) : Environment :=
  env.insert o.key (o.result (env.get? o.key))

/-- The environment after overrides, applied in order. -/
def merge (env : Environment) (overrides : List EnvOverride) : Environment :=
  overrides.foldl apply env

theorem get?_apply (env : Environment) (o : EnvOverride) (name : Bytes) :
    (env.apply o).get? name =
      if o.key = name then some (o.result (env.get? o.key)) else env.get? name :=
  SortedMap.get?_insert ..

@[simp] theorem merge_nil (env : Environment) : env.merge [] = env := rfl

theorem merge_append (env : Environment) (os ps : List EnvOverride) :
    env.merge (os ++ ps) = (env.merge os).merge ps :=
  List.foldl_append

end Environment

end BuildDispatch
