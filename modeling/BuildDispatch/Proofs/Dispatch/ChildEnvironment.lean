import BuildDispatch.Command.Process
import BuildDispatch.Proofs.Config.Validity
import BuildDispatch.Proofs.Dispatch.Precedence

/-! The environment that a process is given.  Whatever policy is in force, its overrides are those
that an environment can take: the configuration has been checked, and the presets are such.  So a
well-formed environment stays well-formed from one command to the next, for any number of them. -/

namespace BuildDispatch

/-- The configurations that a run can have: the defaults, and what a text spells, whatever file it
was read from. -/
inductive Config.IsAccepted : Config → Prop
  | default : IsAccepted default
  | parsed {text : String} {c : Config} (parse : parse text = .ok c) (source : Option String) :
    IsAccepted { c with source }

namespace Config

theorem isAccepted_of_load {path : String} {file : FileState} {c : Config}
    (h : load path file = .ok c) : c.IsAccepted := by
  rcases load_eq_ok.mp h with ⟨-, rfl⟩ | ⟨text, d, -, hParse, rfl⟩
  · exact .default
  · exact .parsed hParse (some path)

theorem IsAccepted.wellFormed {c : Config} (h : c.IsAccepted) : c.WellFormed := by
  cases h with
  | default => exact ⟨by decide, fun _ h => nomatch h⟩
  | parsed parse source =>
    obtain ⟨entries, -, -, hValid⟩ := parse_eq_ok.mp parse
    have hWellFormed := violation?_eq_none_iff.mp hValid
    exact ⟨hWellFormed.tool, hWellFormed.actions⟩

end Config

/-- The presets are not checked when they are used, but they keep to the rules. -/
theorem Preset.isSettable_of_mem_table {p : Preset} {entry : String × ActionPolicy}
    (h : entry ∈ p.table.entries) : ∀ o ∈ entry.2.env, o.IsSettable := by
  have hChecked : ∀ entry ∈ p.table.entries, ∀ o ∈ entry.2.env,
      o.violation? entry.1 = none := by
    cases p <;> decide
  exact fun o ho => EnvOverride.violation?_eq_none_iff.mp (hChecked entry h o ho)

namespace Dispatch

variable {config : Config} {preset : Preset} {request : Request} {env env' : Environment}

theorem PolicyInForce.isSettable {action : String} {p : ActionPolicy}
    (h : PolicyInForce config preset action p) (hConfig : config.WellFormed) :
    ∀ o ∈ p.env, o.IsSettable := by
  cases h with
  | ofConfig listed => exact (hConfig.actions _ (SortedMap.mem_of_lookup listed)).2
  | ofPreset unlisted listed =>
    exact Preset.isSettable_of_mem_table (SortedMap.mem_of_lookup listed)
  | empty => exact fun _ h => nomatch h

theorem wellFormed_commandFor (preset : Preset) (request : Request) (hConfig : config.WellFormed)
    (h : env.WellFormed) : (commandFor config preset request env).env.WellFormed := by
  have hPolicy : PolicyInForce config preset request.action
      (policyFor config preset request.action) := policyInForce_iff.mpr rfl
  exact h.merge (hPolicy.isSettable hConfig)

/-- The environments that come of an environment by composing commands, each for the environment of
the one before it. -/
inductive ComesOf (env : Environment) : Environment → Prop
  | inherited : ComesOf env env
  | composed {before : Environment} (h : ComesOf env before) {config : Config}
      (accepted : config.IsAccepted) (preset : Preset) (request : Request) :
    ComesOf env (commandFor config preset request before).env

/-- A command is composed for a well-formed environment as for the first one. -/
theorem ComesOf.wellFormed (h : ComesOf env env') (hEnv : env.WellFormed) : env'.WellFormed := by
  induction h with
  | inherited => exact hEnv
  | composed _ accepted preset request ih =>
    exact wellFormed_commandFor preset request accepted.wellFormed ih

/-- An environment that a process finds as it was composed. -/
structure ArrivesIntact (env : Environment) : Prop where
  wellFormed : env.WellFormed
  /-- No two strings of the block set one variable. -/
  once : ((env.block.strings.filterMap EnvironmentBlock.binding?).map (·.1)).Nodup
  readBack : env.block.environment = env

theorem arrivesIntact_of_wellFormed (h : env.WellFormed) : ArrivesIntact env where
  wellFormed := h
  once := by
    rw [Environment.filterMap_binding?_block h]
    exact env.keys_nodup
  readBack := Environment.environment_block h

/-- Composing commands never makes a well-formed environment malformed, however often it is done;
and a run in an environment that has come about so composes its command for it. -/
theorem arrivesIntact_of_comesOf (hEnv : env.WellFormed) (h : ComesOf env env') :
    ArrivesIntact env' ∧
      ∀ words block file c, block.environment = env' →
        (plan words block file).command? = some c → ComesOf env c.env := by
  refine ⟨arrivesIntact_of_wellFormed (h.wellFormed hEnv), ?_⟩
  rintro words block file c rfl hCommand
  obtain ⟨i, request, config, -, -, hLoad, rfl⟩ :=
    (course_plan words block file).command?_eq_some.mp hCommand
  exact h.composed (Config.isAccepted_of_load hLoad) (presetFor i config) request

/-- Two commands under one configuration, each of which extends the same variable. -/
theorem arrivesIntact_extended_twice :
    let env : Environment := .ofList [(.ofText "RUSTFLAGS", .ofText "-g=")]
    ∃ config, Config.parse "[[actions.t.env]]\nname = \"RUSTFLAGS\"\nvalue = \"a b\"\n" = .ok config ∧
      let once := (commandFor config .htm ⟨"t", []⟩ env).env
      let twice := (commandFor config .htm ⟨"bench", []⟩ once).env
      twice.block.strings =
          [.ofText "RUSTFLAGS=-g= a b -Ctarget-feature=+rtm -Ctarget-cpu=native"] ∧
        ArrivesIntact twice := by
  intro env
  have hStrings : ((Config.parse
        "[[actions.t.env]]\nname = \"RUSTFLAGS\"\nvalue = \"a b\"\n").toOption.map fun config =>
      (commandFor config .htm ⟨"bench", []⟩
        (commandFor config .htm ⟨"t", []⟩ env).env).env.block.strings) =
      some [.ofText "RUSTFLAGS=-g= a b -Ctarget-feature=+rtm -Ctarget-cpu=native"] := by
    decide +kernel
  obtain ⟨config, hParse, hStrings⟩ := Config.exists_parse_of_map hStrings
  have hAccepted : config.IsAccepted := .parsed hParse config.source
  have hOnce : ComesOf env (commandFor config .htm ⟨"t", []⟩ env).env :=
    .composed .inherited hAccepted .htm ⟨"t", []⟩
  have hTwice := hOnce.composed hAccepted .htm ⟨"bench", []⟩
  exact ⟨config, hParse, hStrings, (arrivesIntact_of_comesOf (by decide) hTwice).1⟩

end Dispatch

end BuildDispatch
