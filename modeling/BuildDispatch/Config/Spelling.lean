import BuildDispatch.Config
import BuildDispatch.Toml.QuotedText.Spelling

/-!
The canonical text of a configuration: a line for each setting that is there, then a table for each
listed action.  What has a default may be left out where the default is meant.
-/

namespace BuildDispatch

open Toml

/-- What a text leaves to the defaults, where it can. -/
structure Omissions where
  /-- `verbose`, if it is off. -/
  verbose : Bool
  /-- The arguments of an action, if there are none. -/
  args : (action : String) → Bool
  /-- The overrides of an action, if there are none. -/
  env : (action : String) → Bool
  /-- The mode of the override of an action at a place, if it appends. -/
  mode : (action : String) → (place : Nat) → Bool

/-- Nothing is left out. -/
def Omissions.none : Omissions := ⟨false, fun _ => false, fun _ => false, fun _ _ => false⟩

namespace Spelling

/-- Items with commas between them, in brackets. -/
def array (items : List (List Char)) : List Char :=
  '[' :: ([',', ' '].intercalate items ++ [']'])

/-- Pairs with commas between them, in braces. -/
def inlineTable (pairs : List (List Char)) : List Char :=
  '\x7b' :: ' ' :: ([',', ' '].intercalate pairs ++ [' ', '\x7d'])

/-- A key and what it stands for. -/
def pair (key : String) (value : List Char) : List Char := key.toList ++ ' ' :: '=' :: ' ' :: value

/-- A text after a key. -/
def textPair (key text : String) : List Char := pair key (QuotedText.spell text)

/-- A line for a pair. -/
def line (l : List Char) : List Char := l ++ ['\n']

/-- The name of a mode. -/
def modeName : OverrideMode → String
  | .append => "append"
  | .set => "set"

/-- An override; `isBrief` leaves out a mode that appends. -/
def override (isBrief : Bool) (o : EnvOverride) : List Char :=
  let mode :=
    if isBrief && o.mode = .append then [] else [textPair "mode" (modeName o.mode)]
  inlineTable (textPair "name" o.name :: textPair "value" o.value :: mode)

/-- The table of an action. -/
def action (om : Omissions) (name : String) (p : ActionPolicy) : List Char :=
  let header := "[actions.".toList ++ (QuotedText.spell name ++ [']'])
  let args := pair "args" (array (p.args.map QuotedText.spell))
  let env := pair "env" (array (p.env.mapIdx fun i o => override (om.mode name i) o))
  line header
    ++ (if p.args.isEmpty && om.args name then [] else line args)
    ++ (if p.env.isEmpty && om.env name then [] else line env)

end Spelling

/-- The text of a configuration.  Its source is no part of it. -/
def Config.spelling (c : Config) (om : Omissions) : String :=
  let settings :=
    (c.preset.map fun p => Spelling.textPair "preset" p.name).toList
      ++ (c.tool.map (Spelling.textPair "tool")).toList
      ++ (c.toolchain.map (Spelling.textPair "toolchain")).toList
      ++ if !c.verbose && om.verbose then []
        else [Spelling.pair "verbose" (if c.verbose then "true" else "false").toList]
  let actions := c.actions.entries.flatMap fun (name, p) => Spelling.action om name p
  String.ofList (settings.flatMap Spelling.line ++ actions)

end BuildDispatch
