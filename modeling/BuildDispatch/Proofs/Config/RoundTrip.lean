import BuildDispatch.Config.File
import BuildDispatch.Proofs.Results
import BuildDispatch.Proofs.SortedMap.Insertions
import BuildDispatch.Proofs.Toml.Document

/-! The round trip of configurations through their texts.  Each part of a configuration is taken to
what is written for it, a pair or a value, which is read back by its `Spells` lemma and decoded to
the part by its `decode` lemma; `parse_spelling` puts the two together for the whole. -/

namespace BuildDispatch

open Toml

theorem map_mapIdx {α β γ : Type} (g : β → γ) (f : Nat → α → β) (l : List α) :
    (l.mapIdx f).map g = l.mapIdx fun i a => g (f i a) := by
  apply List.ext_getElem
  · simp
  · simp

/-- A text under a key. -/
def writtenText (key text : String) : WrittenPair := ⟨key, QuotedText.spell text, .string text⟩

/-- The keys that a configuration is written with. -/
def configKeys : List String :=
  ["preset", "tool", "toolchain", "verbose", "actions", "args", "env", "name", "value", "mode"]

theorem isPlainKey_of_mem {key : String} (h : key ∈ configKeys) : IsPlainKey key := by
  have hNonempty : ∀ key ∈ configKeys, key.toList ≠ [] := by decide
  have hBare : ∀ key ∈ configKeys, key.toList.all KeyPath.isBare = true := by decide
  exact ⟨hNonempty key h, List.all_eq_true.mp (hBare key h)⟩

theorem isGood_writtenText (room : Nat) {key : String} (hKey : key ∈ configKeys) (text : String) :
    (writtenText key text).IsGood room :=
  ⟨isPlainKey_of_mem hKey, spells_text room text⟩

/-! ### Overrides -/

section Overrides

variable (room : Nat) (isBrief : Bool) (o : EnvOverride)

/-- The pairs of an override. -/
def overridePairs : List WrittenPair :=
  writtenText "name" o.name :: writtenText "value" o.value ::
    if isBrief && o.mode = .append then [] else [writtenText "mode" (Spelling.modeName o.mode)]

/-- The value that an override is written for. -/
def overrideValue : Value := .table ((overridePairs isBrief o).map WrittenPair.entry)

theorem spelling_overridePairs :
    Spelling.inlineTable ((overridePairs isBrief o).map WrittenPair.spelling) =
      Spelling.override isBrief o := by
  unfold overridePairs Spelling.override
  split <;> rfl

theorem keys_overridePairs : ((overridePairs isBrief o).map WrittenPair.key).Nodup := by
  unfold overridePairs
  split
  · exact (by decide : ["name", "value"].Nodup)
  · exact (by decide : ["name", "value", "mode"].Nodup)

theorem isGood_of_mem_overridePairs : ∀ p ∈ overridePairs isBrief o, p.IsGood room := by
  have hName : (writtenText "name" o.name).IsGood room :=
    isGood_writtenText room (by decide) o.name
  have hValue : (writtenText "value" o.value).IsGood room :=
    isGood_writtenText room (by decide) o.value
  have hMode : (writtenText "mode" (Spelling.modeName o.mode)).IsGood room :=
    isGood_writtenText room (by decide) (Spelling.modeName o.mode)
  unfold overridePairs
  split
  · simp [hName, hValue]
  · simp [hName, hValue, hMode]

theorem spells_override :
    Spells (room + 1) (Spelling.override isBrief o) (overrideValue isBrief o) := by
  rw [← spelling_overridePairs]
  exact spells_inlineTable (List.cons_ne_nil _ _) (isGood_of_mem_overridePairs room isBrief o)
    (keys_overridePairs isBrief o)

/-- An override is decoded from its table, also where the mode is left out. -/
theorem decode_override : Schema.override (overrideValue isBrief o) = .ok o := by
  obtain ⟨name, value, mode⟩ := o
  cases mode <;> cases isBrief <;> rfl

end Overrides

/-! ### Policies -/

section Policies

variable (isBrief : Nat → Bool) (p : ActionPolicy)

/-- The arguments of a policy. -/
def argsPair : WrittenPair where
  key := "args"
  text := Spelling.array (p.args.map QuotedText.spell)
  value := .array .brackets (p.args.map .string)

/-- The overrides of a policy; `isBrief` says at which places a mode that appends is left out. -/
def envPair : WrittenPair where
  key := "env"
  text := Spelling.array (p.env.mapIdx fun i o => Spelling.override (isBrief i) o)
  value := .array .brackets (p.env.mapIdx fun i o => overrideValue (isBrief i) o)

theorem isGood_argsPair (room : Nat) : (argsPair p).IsGood (room + 1) := by
  refine ⟨isPlainKey_of_mem (by decide : "args" ∈ configKeys), ?_⟩
  have hItems : ∀ q ∈ p.args.map fun s => (QuotedText.spell s, Value.string s),
      Spells room q.1 q.2 := by
    intro q hq
    obtain ⟨s, -, rfl⟩ := List.mem_map.mp hq
    exact spells_text room s
  have hArray := spells_array hItems
  rw [List.map_map, List.map_map] at hArray
  exact hArray

theorem isGood_envPair (room : Nat) : (envPair isBrief p).IsGood (room + 2) := by
  refine ⟨isPlainKey_of_mem (by decide : "env" ∈ configKeys), ?_⟩
  have hItems : ∀ q ∈ p.env.mapIdx fun i o =>
      (Spelling.override (isBrief i) o, overrideValue (isBrief i) o),
      Spells (room + 1) q.1 q.2 := by
    intro q hq
    obtain ⟨i, hi, rfl⟩ := List.mem_mapIdx.mp hq
    exact spells_override room (isBrief i) p.env[i]
  have hArray := spells_array hItems
  rw [map_mapIdx, map_mapIdx] at hArray
  exact hArray

theorem decode_args : Schema.PolicyField.decode (argsPair p).entry = .ok (.args p.args) := by
  have hItems : p.args.mapM (Schema.text ∘ Value.string) = .ok p.args := mapM_eq_ok_iff.mpr rfl
  change Schema.PolicyField.args <$> (p.args.map Value.string).mapM Schema.text = _
  rw [List.mapM_map, hItems]
  rfl

theorem decode_env : Schema.PolicyField.decode (envPair isBrief p).entry = .ok (.env p.env) := by
  have hItems : (p.env.mapIdx fun i o => overrideValue (isBrief i) o).mapM Schema.override =
      .ok p.env := by
    apply mapM_eq_ok_iff.mpr
    rw [map_mapIdx]
    apply List.ext_getElem
    · simp
    · simp [decode_override]
  change Schema.PolicyField.env <$> List.mapM Schema.override _ = _
  rw [hItems]
  rfl

variable (om : Omissions) (name : String)

/-- The pairs in the table of an action. -/
def policyPairs : List WrittenPair :=
  (if p.args.isEmpty && om.args name then [] else [argsPair p])
    ++ if p.env.isEmpty && om.env name then [] else [envPair (om.mode name) p]

theorem isGood_of_mem_policyPairs (room : Nat) :
    ∀ q ∈ policyPairs p om name, q.IsGood (room + 2) := by
  intro q hq
  rcases List.mem_append.mp hq with hArgs | hEnv
  · split at hArgs
    · cases hArgs
    · rw [List.mem_singleton.mp hArgs]
      exact isGood_argsPair p (room + 1)
  · split at hEnv
    · cases hEnv
    · rw [List.mem_singleton.mp hEnv]
      exact isGood_envPair (om.mode name) p room

theorem keys_policyPairs : ((policyPairs p om name).map WrittenPair.key).Nodup := by
  unfold policyPairs
  split <;> split
  · exact List.nodup_nil
  · exact List.nodup_singleton "env"
  · exact List.nodup_singleton "args"
  · exact (by decide : ["args", "env"].Nodup)

/-- What the pairs of a policy are decoded to. -/
def policyFields : List Schema.PolicyField :=
  (if p.args.isEmpty && om.args name then [] else [.args p.args])
    ++ if p.env.isEmpty && om.env name then [] else [.env p.env]

theorem decode_policyPairs :
    ((policyPairs p om name).map WrittenPair.entry).mapM Schema.PolicyField.decode =
      .ok (policyFields p om name) := by
  apply mapM_eq_ok_iff.mpr
  unfold policyPairs policyFields
  split <;> split <;> simp [decode_args, decode_env]

theorem eq_nil_of_omitted {α : Type} {l : List α} {isBrief : Bool}
    (h : (l.isEmpty && isBrief) = true) : l = [] :=
  List.isEmpty_iff.mp (Bool.and_eq_true_iff.mp h).1

theorem args_policyFields :
    ((policyFields p om name).findSome? Schema.PolicyField.args?).getD [] = p.args := by
  unfold policyFields
  split
  · rename_i hOmitted
    rw [eq_nil_of_omitted hOmitted]
    split <;> rfl
  · rfl

theorem env_policyFields :
    ((policyFields p om name).findSome? Schema.PolicyField.env?).getD [] = p.env := by
  unfold policyFields
  by_cases hOmitted : (p.env.isEmpty && om.env name) = true
  · rw [if_pos hOmitted, eq_nil_of_omitted hOmitted]
    split <;> rfl
  · rw [if_neg hOmitted]
    split <;> rfl

/-- A policy is decoded from its table, also where empty lists are left out. -/
theorem decode_policy :
    Schema.policy (.table ((policyPairs p om name).map WrittenPair.entry)) = .ok p := by
  change Schema.policyOfEntries _ = _
  rw [Schema.policyOfEntries, decode_policyPairs]
  change Except.ok (ActionPolicy.mk _ _) = _
  rw [env_policyFields, args_policyFields]

end Policies

/-! ### Configurations -/

namespace Config

variable (c : Config) (om : Omissions)

/-- The settings of a configuration, apart from the actions. -/
def settingPairs : List WrittenPair :=
  (c.preset.map fun p => writtenText "preset" p.name).toList
    ++ (c.tool.map (writtenText "tool")).toList
    ++ (c.toolchain.map (writtenText "toolchain")).toList
    ++ if !c.verbose && om.verbose then []
      else [⟨"verbose", (if c.verbose then "true" else "false").toList, .boolean c.verbose⟩]

/-- What the text of a configuration is written from. -/
def document : WrittenDocument where
  outer := "actions"
  pairs := c.settingPairs om
  sections := c.actions.entries.map fun e => (e.1, policyPairs e.2 om e.1)

theorem lines_policyPairs (name : String) (p : ActionPolicy) :
    (WrittenDocument.sectionLines "actions" (name, policyPairs p om name)).flatMap
      (fun l => Spelling.line l.1) = Spelling.action om name p := by
  unfold policyPairs Spelling.action WrittenDocument.sectionLines WrittenDocument.pairLines
  split <;> split <;> simp [WrittenPair.spelling, argsPair, envPair, sectionHeader]

theorem spelling_settingPairs :
    (c.settingPairs om).map WrittenPair.spelling =
      (c.preset.map fun p => Spelling.textPair "preset" p.name).toList
        ++ (c.tool.map (Spelling.textPair "tool")).toList
        ++ (c.toolchain.map (Spelling.textPair "toolchain")).toList
        ++ if !c.verbose && om.verbose then []
          else [Spelling.pair "verbose" (if c.verbose then "true" else "false").toList] := by
  unfold settingPairs
  simp only [List.map_append, Option.toList_map, List.map_map]
  split <;> rfl

/-- The text of the document is the canonical one. -/
theorem text_document : (c.document om).text = c.spelling om := by
  have hPairs : (WrittenDocument.pairLines (c.settingPairs om)).flatMap
      (fun l => Spelling.line l.1) =
        ((c.settingPairs om).map WrittenPair.spelling).flatMap Spelling.line := by
    rw [WrittenDocument.pairLines, List.flatMap_map, List.flatMap_map]
  have hSections : (c.document om).sections.flatMap
      (fun s => (WrittenDocument.sectionLines "actions" s).flatMap fun l => Spelling.line l.1) =
        c.actions.entries.flatMap fun e => Spelling.action om e.1 e.2 := by
    rw [document, List.flatMap_map]
    congr 1
    funext e
    exact lines_policyPairs om e.1 e.2
  rw [WrittenDocument.text, WrittenDocument.lines, List.flatMap_append, List.flatMap_assoc,
    Config.spelling, ← spelling_settingPairs]
  exact congrArg String.ofList (congr (congrArg _ hPairs) hSections)

theorem isGood_of_mem_settingPairs (room : Nat) : ∀ p ∈ c.settingPairs om, p.IsGood room := by
  intro p hp
  simp only [settingPairs, List.mem_append, Option.mem_toList, Option.map_eq_some_iff] at hp
  rcases hp with ((⟨preset, -, rfl⟩ | ⟨tool, -, rfl⟩) | ⟨toolchain, -, rfl⟩) | hVerbose
  · exact isGood_writtenText room (by decide) preset.name
  · exact isGood_writtenText room (by decide) tool
  · exact isGood_writtenText room (by decide) toolchain
  · split at hVerbose
    · cases hVerbose
    · rw [List.mem_singleton.mp hVerbose]
      exact ⟨isPlainKey_of_mem (by decide : "verbose" ∈ configKeys), spells_boolean room c.verbose⟩

theorem keys_optional {α : Type} (o : Option α) {f : α → WrittenPair} {key : String}
    (h : ∀ a, (f a).key = key) : ((o.map f).toList.map WrittenPair.key).Sublist [key] := by
  cases o with
  | none => exact List.nil_sublist [key]
  | some a => simp [h]

/-- The settings stand in a fixed order, and some may be missing. -/
theorem keys_settingPairs : ((c.settingPairs om).map WrittenPair.key).Sublist
    ["preset", "tool", "toolchain", "verbose"] := by
  have hPreset := keys_optional c.preset (f := fun p => writtenText "preset" p.name) fun _ => rfl
  have hTool := keys_optional c.tool (f := writtenText "tool") fun _ => rfl
  have hToolchain := keys_optional c.toolchain (f := writtenText "toolchain") fun _ => rfl
  unfold settingPairs
  simp only [List.map_append]
  apply ((hPreset.append hTool).append hToolchain).append
  split
  · exact List.nil_sublist ["verbose"]
  · exact List.Sublist.refl ["verbose"]

theorem wellFormed_document : (c.document om).outline.WellFormed where
  keys := by
    rw [WrittenDocument.outline, List.map_map]
    exact (keys_settingPairs c om).nodup (by decide)
  outer := by
    rw [WrittenDocument.outline, List.map_map]
    intro hMem
    exact absurd ((keys_settingPairs c om).mem hMem)
      (by decide : "actions" ∉ ["preset", "tool", "toolchain", "verbose"])
  names := by
    rw [WrittenDocument.outline, document, List.map_map, List.map_map]
    exact c.actions.keys_nodup
  sections := by
    intro s hs
    rw [WrittenDocument.outline, document, List.map_map] at hs
    obtain ⟨e, -, rfl⟩ := List.mem_map.mp hs
    rw [Function.comp_apply, List.map_map]
    exact keys_policyPairs e.2 om e.1

theorem isGood_document : (c.document om).IsGood where
  outer := isPlainKey_of_mem (by decide : "actions" ∈ configKeys)
  pairs := isGood_of_mem_settingPairs c om _
  sections := by
    intro s hs
    obtain ⟨e, -, rfl⟩ := List.mem_map.mp hs
    exact isGood_of_mem_policyPairs e.2 om e.1 _
  wellFormed := wellFormed_document c om

/-- What the pairs of a configuration are decoded to. -/
def plainSettings : List Schema.Setting :=
  (c.preset.map .preset).toList ++ (c.tool.map .tool).toList ++ (c.toolchain.map .toolchain).toList
    ++ if !c.verbose && om.verbose then [] else [.verbose c.verbose]

/-- What the document of a configuration is decoded to. -/
def settings : List Schema.Setting :=
  c.plainSettings om ++ if c.actions.entries.isEmpty then [] else [.actions c.actions]

theorem decode_preset (p : Preset) : Schema.preset (.string p.name) = .ok p := by
  cases p <;> rfl

theorem decode_settingPairs :
    ((c.settingPairs om).map WrittenPair.entry).map Schema.Setting.decode =
      (c.plainSettings om).map .ok := by
  have hPreset : ∀ p : Preset, Schema.Setting.decode (writtenText "preset" p.name).entry =
      .ok (.preset p) := by
    intro p
    change Schema.Setting.preset <$> Schema.preset (.string p.name) = _
    rw [decode_preset]
    rfl
  unfold settingPairs plainSettings
  simp only [List.map_append, Option.toList_map, List.map_map, Function.comp_def, hPreset]
  split <;> rfl

theorem decode_policies :
    Schema.policies (.table ((c.document om).outline.sections.map fun s => (s.1, .table s.2))) =
      .ok c.actions := by
  have hEntries : ((c.document om).outline.sections.map fun s => (s.1, Value.table s.2)).mapM
      (fun e => do return (e.1, ← Schema.policy e.2)) = Except.ok c.actions.entries := by
    apply mapM_eq_ok_iff.mpr
    rw [WrittenDocument.outline, document, List.map_map, List.map_map, List.map_map]
    apply List.map_congr_left
    intro e _
    simp only [Function.comp_apply, decode_policy]
    rfl
  change (List.mapM (fun e : String × Value => do return (e.1, ← Schema.policy e.2)) _ >>=
    fun decoded => Except.ok (SortedMap.ofList decoded)) = _
  rw [hEntries]
  exact congrArg Except.ok c.actions.ofList_entries

theorem decode_document :
    (c.document om).outline.entries.mapM Schema.Setting.decode = .ok (c.settings om) := by
  apply mapM_eq_ok_iff.mpr
  have hActions : Schema.Setting.decode ("actions",
      .table ((c.document om).outline.sections.map fun s => (s.1, .table s.2))) =
        .ok (.actions c.actions) := by
    change Schema.Setting.actions <$> Schema.policies _ = _
    rw [decode_policies]
    rfl
  have hPairs : (c.document om).outline.pairs = (c.settingPairs om).map WrittenPair.entry := rfl
  have hNone : (c.document om).outline.sections.isEmpty = c.actions.entries.isEmpty := by
    rw [WrittenDocument.outline, document, List.isEmpty_map, List.isEmpty_map]
  rw [Outline.entries, settings, List.map_append, List.map_append, hPairs, decode_settingPairs,
    hNone]
  apply congrArg
  split
  · rfl
  · exact congrArg (fun x => [x]) hActions

theorem findSome?_optional {α β γ : Type} (o : Option α) (f : α → β) (g : β → Option γ) :
    (o.map f).toList.findSome? g = o.bind fun a => g (f a) := by
  cases o <;> simp

/-- Whatever is looked for among the settings, each part of the configuration answers for itself. -/
theorem findSome?_settings {α : Type} (f : Schema.Setting → Option α) :
    (c.settings om).findSome? f =
      ((((c.preset.bind fun p => f (.preset p)).or (c.tool.bind fun s => f (.tool s))).or
        (c.toolchain.bind fun s => f (.toolchain s))).or
          (if !c.verbose && om.verbose then none else f (.verbose c.verbose))).or
            (if c.actions.entries.isEmpty then none else f (.actions c.actions)) := by
  unfold settings plainSettings
  simp only [List.findSome?_append, findSome?_optional]
  congr 1
  · congr 1
    split
    · rfl
    · simp
  · split
    · rfl
    · simp

theorem config_document :
    Schema.config (c.document om).outline.entries = .ok { c with source := none } := by
  -- What is left out is looked for in vain, and then the default is what was meant.
  have hPreset : (c.settings om).findSome? Schema.Setting.preset? = c.preset := by
    simp [findSome?_settings, Schema.Setting.preset?]
  have hTool : (c.settings om).findSome? Schema.Setting.tool? = c.tool := by
    simp [findSome?_settings, Schema.Setting.tool?]
  have hToolchain : (c.settings om).findSome? Schema.Setting.toolchain? = c.toolchain := by
    simp [findSome?_settings, Schema.Setting.toolchain?]
  have hVerbose : ((c.settings om).findSome? Schema.Setting.verbose?).getD false = c.verbose := by
    rw [findSome?_settings]
    by_cases hOmitted : (!c.verbose && om.verbose) = true
    · have hOff : c.verbose = false := by simpa using (Bool.and_eq_true_iff.mp hOmitted).1
      rw [if_pos hOmitted]
      simp [Schema.Setting.verbose?, hOff]
    · rw [if_neg hOmitted]
      simp [Schema.Setting.verbose?]
  have hActions : ((c.settings om).findSome? Schema.Setting.actions?).getD .empty = c.actions := by
    rw [findSome?_settings]
    cases hEmpty : c.actions.entries.isEmpty with
    | true => simp [Schema.Setting.actions?, SortedMap.eq_empty_of_isEmpty hEmpty]
    | false => simp [Schema.Setting.actions?]
  rw [Schema.config, decode_document]
  change Except.ok (Config.mk _ _ _ _ _ none) = _
  rw [hPreset, hTool, hToolchain, hVerbose, hActions]

end Config

/-- What is written for a configuration is read back, whatever is left to the defaults; a
configuration that breaks a rule is refused for that rule. -/
theorem Config.parse_spelling (c : Config) (om : Omissions) :
    Config.parse (c.spelling om) =
      match c.violation? with
      | none => .ok { c with source := none }
      | some v => .error (.invalid v) := by
  have hViolation : { c with source := none }.violation? = c.violation? := rfl
  rw [parse, ← text_document, WrittenDocument.parse?_text (isGood_document c om)]
  simp only [config_document, hViolation]
  cases c.violation? <;> rfl

example :
    Config.spelling ⟨none, some "a\"b", none, false, .ofList [("x.y", ⟨[], ["-v"]⟩)], none⟩ .none =
      "tool = \"a\\u0022b\"\nverbose = false\n[actions.\"x.y\"]\nargs = [\"-v\"]\nenv = []\n" :=
  rfl

end BuildDispatch
