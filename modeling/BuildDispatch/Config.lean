import BuildDispatch.Command
import BuildDispatch.Preset

/-!
Configurations, and what they make of a preset: the tool to run and the table of policies.
-/

namespace BuildDispatch

/-- The settings of a configuration file. -/
structure Config where
  /-- The preset to start from. -/
  preset : Option Preset
  /-- The program to run in place of the default one. -/
  tool : Option String
  /-- The toolchain to ask for.  The empty name drops the one that the preset pins. -/
  toolchain : Option String
  verbose : Bool
  /-- Replaces the policy of each listed action as a whole. -/
  actions : PolicyTable
  /-- The file that the settings come from; none for the defaults. -/
  source : Option String
  deriving DecidableEq

namespace Config

/-- The settings in force without a file. -/
def default : Config := ⟨none, none, none, false, .empty, none⟩

/-- The policies of a preset with the listed actions of the configuration over them. -/
def policyTable (c : Config) (preset : Preset) : PolicyTable := preset.table.override c.actions

/-- The tool to run under a preset. -/
def toolFor (c : Config) (preset : Preset) : Tool where
  program := (c.tool.map Bytes.ofText).getD Tool.default.program
  toolchain :=
    match c.toolchain with
    | some "" => none
    | some name => some name
    | none => preset.toolchain

end Config

end BuildDispatch
