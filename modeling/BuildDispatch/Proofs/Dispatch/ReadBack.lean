import BuildDispatch.Proofs.Command.Overridden
import BuildDispatch.Proofs.Command.ReadBack
import BuildDispatch.Proofs.Dispatch.Plan
import BuildDispatch.Proofs.Environment.Merge

/-! The line that a run shows for its command, read back as a shell does.  Requests and environments
of texts give commands of texts, so the line shows the command unless a name in it is unknown to a
shell or the program looks like an assignment. -/

namespace BuildDispatch

namespace EnvOverride

/-- An override leaves a text where it finds none or a text. -/
theorem isText_result (o : EnvOverride) {before : Option Bytes} (h : ∀ v ∈ before, v.IsText) :
    (o.result before).IsText := by
  unfold result
  split
  · rename_i b r hMode
    exact ((h _ rfl).append (Bytes.isText_ofText " ")).append (Bytes.isText_ofText o.value)
  · exact Bytes.isText_ofText o.value

end EnvOverride

namespace Dispatch

open ShellLine

/-- The command for a request of texts consists of texts where the environment does. -/
theorem isText_commandFor (config : Config) (preset : Preset) {request : Request}
    {env : Environment} (hTrailing : ∀ word ∈ request.trailing, word.IsText)
    (hEnv : ∀ name v, env.get? name = some v → v.IsText) :
    (commandFor config preset request env).IsText where
  names := by
    intro name hName
    obtain ⟨o, -, rfl⟩ := List.mem_map.mp (List.mem_eraseDups.mp hName)
    exact Bytes.isText_ofText o.name
  values := by
    intro name hName
    obtain ⟨o, ho, hKey⟩ := List.mem_map.mp (List.mem_eraseDups.mp hName)
    have hKeys := (Environment.mem_keys_merge env _ name).mpr (.inr ⟨o, ho, hKey⟩)
    obtain ⟨v, hv⟩ := Option.isSome_iff_exists.mp (SortedMap.mem_keys.mp hKeys)
    exact ⟨v, hv, Environment.forall_get?_merge hEnv (fun o _ _ h => o.isText_result h) name v hv⟩
  argv := by
    intro word hWord
    simp only [argv_commandFor, List.mem_append, List.mem_singleton, List.mem_map] at hWord
    rcases hWord with (((rfl | ⟨name, -, rfl⟩) | rfl) | ⟨arg, -, rfl⟩) | hWord
    · exact ⟨_, program_toolFor config preset⟩
    · exact Bytes.isText_ofText _
    · exact Bytes.isText_ofText _
    · exact Bytes.isText_ofText arg
    · exact hTrailing word hWord

/-- The line that shows the command for a request is read back as that command: as assignments to
the overridden variables, once each in the order of their first override, with the values that they
have in the environment of the process, and as the argument vector. -/
def ReadsBack (config : Config) (preset : Preset) (request : Request) (env : Environment) : Prop :=
  let overrides := (policyFor config preset request.action).env
  let c := commandFor config preset request env
  ∃ line, SimpleCommand.read? c.render.toList = some line ∧
    line.Shows ((overrides.map EnvOverride.key).eraseDups) c.env c.argv

/-- The command for a request of texts is read back exactly if a shell knows the names of all
overridden variables and does not take the program for an assignment. -/
theorem readsBack_iff (config : Config) (preset : Preset) (request : Request) (env : Environment)
    (hTrailing : ∀ word ∈ request.trailing, word.IsText)
    (hEnv : ∀ name v, env.get? name = some v → v.IsText) :
    ReadsBack config preset request env ↔
      (∀ o ∈ (policyFor config preset request.action).env, isName o.name.toList = true) ∧
        ¬ IsAssigning (config.tool.getD "cargo").toList := by
  have hShows := Command.exists_shows_iff (isText_commandFor config preset hTrailing hEnv)
    (nodup_eraseDups _)
  have hNames : (∀ name ∈ (commandFor config preset request env).overridden,
        isName name.lossyText.toList = true) ↔
      ∀ o ∈ (policyFor config preset request.action).env, isName o.name.toList = true := by
    simp [commandFor, Command.compose, EnvOverride.key]
  have hProgram : (commandFor config preset request env).program =
      .ofText (config.tool.getD "cargo") :=
    program_toolFor config preset
  rw [hNames, hProgram, Bytes.lossyText_ofText] at hShows
  exact hShows

/-- A configuration whose tool has a blank in its name, with two overrides of one variable. -/
def blankToolConfig : Config :=
  { Config.default with
    tool := some "my tool"
    actions := .ofList [("build", ActionPolicy.empty.set "FLAGS" "it's" |>.append "FLAGS" "=b")] }

/-- Values, the program and arguments are quoted where they need it. -/
theorem readsBack_quoted :
    let request : Request := ⟨"build", [.ofText "A=b", []]⟩
    let env : Environment := .ofList [(.ofText "FLAGS", .ofText "old")]
    (commandFor blankToolConfig .swym request env).render =
        "FLAGS='it'\\''s =b' 'my tool' build A=b ''" ∧
      ReadsBack blankToolConfig .swym request env := by
  intro request env
  refine ⟨by decide +kernel, ?_⟩
  have hTrailing : ∀ word ∈ request.trailing, word.IsText := by
    intro word hWord
    rcases List.mem_cons.mp hWord with rfl | hWord
    · exact Bytes.isText_ofText "A=b"
    · rw [List.mem_singleton.mp hWord]
      exact Bytes.isText_ofText ""
  have hEnv : ∀ name v, env.get? name = some v → v.IsText := by
    intro name v h
    change (SortedMap.empty.insert (.ofText "FLAGS") (.ofText "old")).get? name = some v at h
    rw [SortedMap.get?_insert] at h
    split at h
    · cases h
      exact Bytes.isText_ofText "old"
    · cases h
  have hProgram : ¬ IsAssigning (blankToolConfig.tool.getD "cargo").toList := by
    intro h
    exact absurd (plain_of_isAssigning h) (by decide)
  exact (readsBack_iff blankToolConfig .swym request env hTrailing hEnv).mpr
    ⟨by decide +kernel, hProgram⟩

/-- A line that is read as more or fewer words than a command has does not show it. -/
theorem not_readsBack_of_length {text : String} {request : Request} (read sent : Nat)
    (h : ((Config.parse text).toOption.map fun config =>
        let c := commandFor config .swym request .empty
        ((SimpleCommand.read? c.render.toList).map fun line => line.words.length, c.argv.length)) =
      some (some read, sent)) (hne : read ≠ sent) :
    ∃ config, Config.parse text = .ok config ∧ ¬ ReadsBack config .swym request .empty := by
  obtain ⟨config, hConfig, hLengths⟩ := Config.exists_parse_of_map h
  obtain ⟨hRead, hSent⟩ := Prod.mk.inj hLengths
  obtain ⟨line, hLine, hWords⟩ := Option.map_eq_some_iff.mp hRead
  refine ⟨config, hConfig, ?_⟩
  rintro ⟨line', hLine', hShows⟩
  cases hLine.symm.trans hLine'
  apply hne
  rw [← hWords, ← hSent, ← hShows.words, List.length_map]

/-- Two accepted configurations whose commands are not read back: one with a tool that is read as an
assignment, one with a variable whose name is read as two words. -/
theorem not_readsBack_assigning_tool_blank_name :
    (∃ config, Config.parse "tool = \"A=b\"\n" = .ok config ∧
      ¬ ReadsBack config .swym ⟨"build", []⟩ .empty) ∧
    ∃ config, Config.parse "[[actions.build.env]]\nname = \"A B\"\nvalue = \"1\"\n" = .ok config ∧
      ¬ ReadsBack config .swym ⟨"build", []⟩ .empty := by
  constructor
  · exact not_readsBack_of_length 1 2 (by decide +kernel) (by decide)
  · exact not_readsBack_of_length 4 2 (by decide +kernel) (by decide)

end Dispatch

end BuildDispatch
