import BuildDispatch.Proofs.Dispatch.ChildEnvironment
import BuildDispatch.Proofs.Dispatch.Verbatim
import BuildDispatch.Proofs.Host.Runs

/-! NUL bytes in the arguments of a process.  The rules for configurations speak of the names and
values of variables only, so a tool, a toolchain or an argument with a NUL character is accepted,
and the process that it goes to is never started. -/

namespace BuildDispatch

/-- The texts of a configuration that go into the arguments for an action hold no NUL character. -/
structure Config.IsNulFreeFor (config : Config) (action : String) : Prop where
  tool : ∀ name ∈ config.tool, '\x00' ∉ name.toList
  toolchain : ∀ name ∈ config.toolchain, '\x00' ∉ name.toList
  args : ∀ p ∈ config.actions.get? action, ∀ arg ∈ p.args, '\x00' ∉ arg.toList

namespace Dispatch

variable {config : Config} {preset : Preset} {request : Request} {env : Environment}

/-! ### Where a NUL byte can come from -/

theorem nul_notMem_program_iff :
    (0 : UInt8) ∉ (config.toolFor preset).program ↔ ∀ name ∈ config.tool, '\x00' ∉ name.toList := by
  rw [program_toolFor, Bytes.nul_mem_ofText]
  cases config.tool <;> simp

/-- No preset pins a toolchain with a NUL character. -/
theorem nul_notMem_toolchain_iff :
    (∀ name ∈ (config.toolFor preset).toolchain.toList, (0 : UInt8) ∉ Bytes.ofText ("+" ++ name)) ↔
      ∀ name ∈ config.toolchain, '\x00' ∉ name.toList := by
  have hPlus : ∀ name, (0 : UInt8) ∉ Bytes.ofText ("+" ++ name) ↔ '\x00' ∉ name.toList := by
    intro name
    rw [Bytes.nul_mem_ofText, String.toList_append, List.mem_append]
    simp
  have hInForce : ToolchainInForce config preset (config.toolFor preset).toolchain :=
    toolchainInForce_iff.mpr rfl
  simp only [hPlus, Option.mem_toList]
  generalize (config.toolFor preset).toolchain = t at hInForce
  cases hInForce with
  | ofConfig set => simp [set]
  | dropped set => simp [set]
  | ofPreset unset =>
    have hPreset : ∀ name ∈ preset.toolchain, '\x00' ∉ name.toList := by
      cases preset <;> decide
    simpa [unset] using hPreset

/-- No preset has an argument with a NUL character. -/
theorem nul_notMem_args_iff {action : String} :
    (∀ arg ∈ (policyFor config preset action).args, (0 : UInt8) ∉ Bytes.ofText arg) ↔
      ∀ p ∈ config.actions.get? action, ∀ arg ∈ p.args, '\x00' ∉ arg.toList := by
  have hInForce : PolicyInForce config preset action (policyFor config preset action) :=
    policyInForce_iff.mpr rfl
  simp only [Bytes.nul_mem_ofText]
  generalize policyFor config preset action = p at hInForce
  cases hInForce with
  | ofConfig listed => simp [listed]
  | ofPreset unlisted listed =>
    have hPreset : ∀ entry ∈ preset.table.entries, ∀ arg ∈ entry.2.args, '\x00' ∉ arg.toList := by
      cases preset <;> decide
    simpa [unlisted] using hPreset _ (SortedMap.mem_of_lookup listed)
  | empty unlisted => simp [unlisted, ActionPolicy.empty]

/-- Where the request holds no NUL byte, the arguments hold one only if the configuration does. -/
theorem nul_notMem_argv_iff (hAction : '\x00' ∉ request.action.toList)
    (hTrailing : ∀ word ∈ request.trailing, (0 : UInt8) ∉ word) :
    (∀ word ∈ (commandFor config preset request env).argv, (0 : UInt8) ∉ word) ↔
      config.IsNulFreeFor request.action := by
  rw [argv_commandFor]
  simp only [List.forall_mem_append, List.forall_mem_singleton, List.forall_mem_map,
    nul_notMem_program_iff, nul_notMem_toolchain_iff, nul_notMem_args_iff]
  constructor
  · rintro ⟨⟨⟨⟨hTool, hToolchain⟩, -⟩, hArgs⟩, -⟩
    exact ⟨hTool, hToolchain, hArgs⟩
  · intro h
    exact ⟨⟨⟨⟨h.tool, h.toolchain⟩, mt (Bytes.nul_mem_ofText _).mp hAction⟩, h.args⟩, hTrailing⟩

/-- An accepted command line without a NUL byte asks for nothing with one. -/
theorem nul_notMem_of_parse {words : List Bytes} {i : CommandLine.Invocation} {request : Request}
    (hWords : ∀ word ∈ words, (0 : UInt8) ∉ word) (hParse : CommandLine.parse words = .ok i)
    (hRequest : Request.ofWords i.tokens = .ok request) :
    '\x00' ∉ request.action.toList ∧ ∀ word ∈ request.trailing, (0 : UInt8) ∉ word := by
  obtain ⟨l, -, rfl, rfl⟩ := CommandLine.exists_layout_of_parse hParse
  obtain ⟨rfl, -⟩ := CommandLine.Layout.ofWords_tokens_eq_ok.mp hRequest
  simp only [CommandLine.Layout.words, List.forall_mem_append, List.forall_mem_cons] at hWords
  obtain ⟨-, hAction, hRest⟩ := hWords
  exact ⟨mt (Bytes.nul_mem_ofText _).mpr hAction, hRest⟩

/-! ### What the system says to it -/

/-- What becomes of NUL characters in the configuration `config` when the command `c` for an action
is started. -/
structure ReportsNul (config : Config) (action : String) (c : Command) : Prop where
  argv : (∀ word ∈ c.argv, (0 : UInt8) ∉ word) ↔ config.IsNulFreeFor action
  /-- Only the system refuses them, when the process is to be started. -/
  refused : ¬ config.IsNulFreeFor action → ∀ (host : Host) (behaviour : Host.Behaviour),
    host.start c behaviour = .error .nulByte
  /-- It has nothing else to refuse for a NUL byte: the environment never holds one. -/
  handedOn : config.IsNulFreeFor action → Host.holdsNul c = false

/-- For command lines and environments without a NUL byte, the arguments of a process are free of
them exactly if the tool, the toolchain and the arguments in the configuration are. -/
theorem command_reportsNul {words : List Bytes} {block : EnvironmentBlock} {file : FileState}
    {c : Command} (hWords : ∀ word ∈ words, (0 : UInt8) ∉ word)
    (hEnv : block.environment.WellFormed) (h : (plan words block file).command? = some c) :
    ∃ action config, c.action = .ofText action ∧ Config.load configPath file = .ok config ∧
      ReportsNul config action c := by
  obtain ⟨i, request, config, hParse, hRequest, hLoad, rfl⟩ :=
    (course_plan words block file).command?_eq_some.mp h
  obtain ⟨hAction, hTrailing⟩ := nul_notMem_of_parse hWords hParse hRequest
  have hArgv : (∀ word ∈ (commandFor config (presetFor i config) request block.environment).argv,
      (0 : UInt8) ∉ word) ↔ config.IsNulFreeFor request.action :=
    nul_notMem_argv_iff hAction hTrailing
  have hChild := wellFormed_commandFor (presetFor i config) request
    (Config.isAccepted_of_load hLoad).wellFormed hEnv
  have hEntries := Environment.wellFormed_iff.mp hChild
  refine ⟨request.action, config, rfl, hLoad, hArgv, fun hNul host _ => ?_, fun hFree => ?_⟩
  · apply Host.start_of_holdsNul
    rw [← Bool.not_eq_false, Host.holdsNul_eq_false_iff]
    exact fun hNone => hNul (hArgv.mp hNone.1)
  · exact Host.holdsNul_eq_false_iff.mpr
      ⟨hArgv.mpr hFree, fun e he => ⟨(hEntries e he).1.nul_notMem, (hEntries e he).2⟩⟩

/-- A host with nothing but a configuration file. -/
def hostWith (text : String) : Host where
  files := .ofList [(.ofText configPath, .file (.ofText text))]
  stdin := []

/-- A toolchain with a NUL character, which a policy without one does not make up for. -/
theorem reportsNul_toolchain :
    let words := ["-n", "test", "--", "b"].map Bytes.ofText
    let block : EnvironmentBlock := ⟨[.ofText "RUSTFLAGS==", .ofText "unset"]⟩
    let file := FileState.holds (.ofText "toolchain = \"a\\u0000\"\n[actions.test]\nargs = [\"c\"]\n")
    ∃ c action config, (plan words block file).command? = some c ∧
      c.argv = ["cargo", "+a\x00", "test", "c", "--", "b"].map Bytes.ofText ∧
      ReportsNul config action c := by
  intro words block file
  have hArgv : (plan words block file).command?.map Command.argv =
      some (["cargo", "+a\x00", "test", "c", "--", "b"].map Bytes.ofText) := by
    decide +kernel
  obtain ⟨c, hc, hArgv⟩ := Option.map_eq_some_iff.mp hArgv
  have hWords : ∀ word ∈ words, (0 : UInt8) ∉ word := by decide
  have hEnv : block.environment.WellFormed := by decide
  obtain ⟨action, config, -, -, hReports⟩ := command_reportsNul hWords hEnv hc
  exact ⟨c, action, config, hc, hArgv, hReports⟩

/-- Configurations with a NUL character in the tool, in the toolchain and in an argument. -/
def textsWithNul : List String := [
  "tool = \"a\\u0000b\"\n", "toolchain = \"a\\u0000b\"\n",
  "[actions.t]\nargs = [\"a\\u0000b\"]\n"]

/-- Each of these configurations is accepted, and a run under it fails when the process is to be
started and not before. -/
theorem accepted_textsWithNul :
    (textsWithNul.map fun text =>
        (plan [.ofText "t"] ⟨[]⟩ (.holds (.ofText text))).toStart?.map Command.argv) =
      [some (["a\x00b", "t"].map Bytes.ofText),
        some (["cargo", "+a\x00b", "t"].map Bytes.ofText),
        some (["cargo", "t", "a\x00b"].map Bytes.ofText)] ∧
    (textsWithNul.map fun text =>
        ((hostWith text).run [.ofText "t"] ⟨[]⟩).ending.failure.map (·.chain.2)) =
      List.replicate 3 (some (some "nul byte found in provided data")) := by
  constructor
  · decide +kernel
  · decide +kernel

end Dispatch

end BuildDispatch
