import BuildDispatch.Proofs.Dispatch.Plan
import BuildDispatch.Proofs.SortedMap.Insertions

/-! Which settings are in force.  The command line comes before the configuration and the
configuration before the preset; each relation here has one case for each place that a setting can
come from.  The policy of an action is taken from one place as a whole, so a command depends on a
configuration through its tool, its toolchain, the preset and the entry of that action only. -/

namespace BuildDispatch

namespace Dispatch

open CommandLine (Invocation)

/-- The preset in force. -/
inductive PresetInForce (i : Invocation) (config : Config) : Preset → Prop
  | ofCommandLine {p : Preset} (asked : i.preset = some p) : PresetInForce i config p
  | ofConfig {p : Preset} (silent : i.preset = none) (set : config.preset = some p) :
    PresetInForce i config p
  | fallback (silent : i.preset = none) (unset : config.preset = none) :
    PresetInForce i config .swym

/-- The policy in force for an action. -/
inductive PolicyInForce (config : Config) (preset : Preset) (action : String) :
    ActionPolicy → Prop
  | ofConfig {p : ActionPolicy} (listed : config.actions.get? action = some p) :
    PolicyInForce config preset action p
  | ofPreset {p : ActionPolicy} (unlisted : config.actions.get? action = none)
      (listed : preset.table.get? action = some p) :
    PolicyInForce config preset action p
  | empty (unlisted : config.actions.get? action = none)
      (unknown : preset.table.get? action = none) :
    PolicyInForce config preset action .empty

/-- The toolchain in force. -/
inductive ToolchainInForce (config : Config) (preset : Preset) : Option String → Prop
  | ofConfig {name : String} (set : config.toolchain = some name) (named : name ≠ "") :
    ToolchainInForce config preset (some name)
  | dropped (set : config.toolchain = some "") : ToolchainInForce config preset none
  | ofPreset (unset : config.toolchain = none) : ToolchainInForce config preset preset.toolchain

variable {i : Invocation} {config : Config} {preset : Preset}

theorem presetInForce_iff {p : Preset} : PresetInForce i config p ↔ p = presetFor i config := by
  constructor
  · intro h
    cases h with
    | ofCommandLine asked => simp [presetFor, asked]
    | ofConfig silent set => simp [presetFor, silent, set]
    | fallback silent unset =>
      rw [presetFor, silent, unset]
      rfl
  · rintro rfl
    cases hAsked : i.preset with
    | some p =>
      rw [presetFor, hAsked]
      exact .ofCommandLine hAsked
    | none =>
      cases hSet : config.preset with
      | some p =>
        rw [presetFor, hAsked, hSet]
        exact .ofConfig hAsked hSet
      | none =>
        rw [presetFor, hAsked, hSet]
        exact .fallback hAsked hSet

/-- The entry of the configuration is looked up first, and that of the preset only without one. -/
theorem policyFor_eq (config : Config) (preset : Preset) (action : String) :
    policyFor config preset action =
      ((config.actions.get? action).or (preset.table.get? action)).getD .empty := by
  rw [policyFor, PolicyTable.resolve, Config.policyTable, SortedMap.get?_override]

theorem policyInForce_iff {action : String} {p : ActionPolicy} :
    PolicyInForce config preset action p ↔ p = policyFor config preset action := by
  rw [policyFor_eq]
  constructor
  · intro h
    cases h with
    | ofConfig listed => simp [listed]
    | ofPreset unlisted listed => simp [unlisted, listed]
    | empty unlisted unknown => simp [unlisted, unknown]
  · rintro rfl
    cases hListed : config.actions.get? action with
    | some p => exact .ofConfig hListed
    | none =>
      cases hKnown : preset.table.get? action with
      | some p => exact .ofPreset hListed hKnown
      | none => exact .empty hListed hKnown

theorem toolchainInForce_iff {t : Option String} :
    ToolchainInForce config preset t ↔ t = (config.toolFor preset).toolchain := by
  constructor
  · intro h
    cases h with
    | ofConfig set named => simp [Config.toolFor, set]
    | dropped set => simp [Config.toolFor, set]
    | ofPreset unset => simp [Config.toolFor, unset]
  · rintro rfl
    cases hSet : config.toolchain with
    | none =>
      simp only [Config.toolFor, hSet]
      exact .ofPreset hSet
    | some name =>
      by_cases hName : name = ""
      · subst hName
        simp only [Config.toolFor, hSet]
        exact .dropped hSet
      · have hKept : (config.toolFor preset).toolchain = some name := by
          simp [Config.toolFor, hSet]
        rw [hKept]
        exact .ofConfig hSet hName

/-- No toolchain in force has the empty name. -/
theorem ToolchainInForce.ne_empty {t : Option String} (h : ToolchainInForce config preset t) :
    t ≠ some "" := by
  cases h with
  | ofConfig set named => simpa using named
  | dropped set => simp
  | ofPreset unset => cases preset <;> decide

/-- The arguments that select a toolchain name it. -/
theorem plus_notMem_selector (config : Config) (preset : Preset) :
    .ofText "+" ∉ (config.toolFor preset).selector := by
  have hInForce : ToolchainInForce config preset (config.toolFor preset).toolchain :=
    toolchainInForce_iff.mpr rfl
  have hNamed := hInForce.ne_empty
  cases hToolchain : (config.toolFor preset).toolchain with
  | none => simp [Tool.selector, hToolchain]
  | some name =>
    intro h
    simp only [Tool.selector, hToolchain, Option.map_some, Option.toList_some,
      List.mem_singleton] at h
    rw [Bytes.ofText_append, ← List.append_nil (Bytes.ofText "+"), List.append_assoc,
      List.append_cancel_left_eq] at h
    have hEmpty : name = "" := Bytes.ofText_inj h.symm
    rw [hToolchain, hEmpty] at hNamed
    exact hNamed rfl

/-- Configurations that agree on the tool, the toolchain and the entry of an action give the same
command for it under the same preset. -/
theorem commandFor_congr {config config' : Config} (preset : Preset) (request : Request)
    (env : Environment) (hTool : config'.tool = config.tool)
    (hToolchain : config'.toolchain = config.toolchain)
    (hEntry : config'.actions.get? request.action = config.actions.get? request.action) :
    commandFor config' preset request env = commandFor config preset request env := by
  have hToolFor : config'.toolFor preset = config.toolFor preset := by
    simp only [Config.toolFor, hTool, hToolchain]
  rw [commandFor, commandFor, hToolFor, policyFor_eq, policyFor_eq, hEntry]

/-- The command `c` for a request is made of the settings in force, of which there is one each, and
of nothing else. -/
structure Follows (i : Invocation) (config : Config) (request : Request) (env : Environment)
    (c : Command) : Prop where
  settings : ∃ preset policy toolchain,
    (∀ p, PresetInForce i config p ↔ p = preset) ∧
    (∀ p, PolicyInForce config preset request.action p ↔ p = policy) ∧
    (∀ t, ToolchainInForce config preset t ↔ t = toolchain) ∧
    c = .compose ⟨.ofText (config.tool.getD "cargo"), toolchain⟩ request policy env
  /-- What stands between the program and the action is never a plus sign alone. -/
  selector : .ofText "+" ∉ c.leading
  actions : ∀ preset name, name ∈ (config.policyTable preset).actions ↔
    name ∈ preset.table.actions ∨ name ∈ config.actions.actions
  /-- Nothing else of a configuration, the entries of other actions included, plays a part. -/
  alike : ∀ (i' : Invocation) (config' : Config),
    config'.tool = config.tool → config'.toolchain = config.toolchain →
    (∀ p, PresetInForce i' config' p ↔ PresetInForce i config p) →
    config'.actions.get? request.action = config.actions.get? request.action →
    commandFor config' (presetFor i' config') request env = c

/-- Every command follows the settings in force, and a run composes no other. -/
theorem commandFor_follows :
    (∀ i config request env,
      Follows i config request env (commandFor config (presetFor i config) request env)) ∧
    ∀ words block file c, (plan words block file).command? = some c ↔
      ∃ i request config, CommandLine.parse words = .ok i ∧
        Request.ofWords i.tokens = .ok request ∧ Config.load configPath file = .ok config ∧
        c = commandFor config (presetFor i config) request block.environment := by
  refine ⟨fun i config request env => ?_, fun words block file c =>
    (course_plan words block file).command?_eq_some⟩
  exact {
    settings := by
      refine ⟨_, _, _, fun _ => presetInForce_iff, fun _ => policyInForce_iff,
        fun _ => toolchainInForce_iff, ?_⟩
      rw [commandFor, ← program_toolFor config (presetFor i config)]
    selector := plus_notMem_selector config (presetFor i config)
    actions := fun preset name => SortedMap.mem_keys_override preset.table config.actions name
    alike := fun i' config' hTool hToolchain hPreset hEntry => by
      have hSame : presetFor i' config' = presetFor i config :=
        presetInForce_iff.mp ((hPreset _).mp (presetInForce_iff.mpr rfl))
      rw [hSame]
      exact commandFor_congr _ request env hTool hToolchain hEntry }

/-- An empty entry leaves nothing of the preset's. -/
example :
    let config := { Config.default with actions := .ofList [("test", .empty)] }
    policyFor config .swym "test" = .empty ∧
      policyFor config .swym "bench" = Preset.swym.table.resolve "bench" := by
  decide

end Dispatch

end BuildDispatch
